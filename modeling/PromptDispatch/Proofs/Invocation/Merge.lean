import PromptDispatch.Invocation.Environment
import PromptDispatch.Proofs.Dict.Entries

/-!
# Overrides put over variables

A list of variables may name one of them again; it stands for the map that has the last value of
each.  Overrides are a map put over that one, so that merging has the laws of an overlay.

* `mem_mergeEnvironment_iff`     which values there are;
* `mergeEnvironment_merge`       two merges are one with both maps;
* `mergeInOrder_eq`              the order in which the overrides are visited does not matter;
* `mergeEnvironment_overlay`     merging as an overlay.
-/

namespace PromptDispatch

variable {base : List (String × String)} {o : Dict String} {k v : String}

/-! ## keys and values -/

theorem keys_mergeEnvironment_sorted (base : List (String × String)) (o : Dict String) :
    ((mergeEnvironment base o).map Prod.fst).Pairwise (· < ·) :=
  Dict.keys_sorted _

theorem mem_keys_mergeEnvironment :
    k ∈ (mergeEnvironment base o).map Prod.fst ↔ k ∈ base.map Prod.fst ∨ k ∈ o.keys :=
  Dict.mem_keys_overlay.trans (or_congr_left Dict.mem_keys_ofList)

theorem mem_mergeEnvironment_iff :
    (k, v) ∈ mergeEnvironment base o ↔
      o.get? k = some v ∨ (o.get? k = none ∧ base.reverse.lookup k = some v) := by
  rw [mergeEnvironment, ← Dict.get?_eq_some_iff_mem, Dict.get?_overlay, Option.or_eq_some_iff,
    Dict.get?_ofList]

/-! ## merging again -/

theorem ofList_mergeEnvironment (base : List (String × String)) (o : Dict String) :
    Dict.ofList (mergeEnvironment base o) = (Dict.ofList base).overlay o :=
  Dict.ofList_entries _

theorem mergeEnvironment_merge (base : List (String × String)) (o o' : Dict String) :
    mergeEnvironment (mergeEnvironment base o) o' = mergeEnvironment base (o.overlay o') := by
  rw [mergeEnvironment, ofList_mergeEnvironment, Dict.overlay_assoc, mergeEnvironment]

theorem mergeEnvironment_again (base : List (String × String)) (o : Dict String) :
    mergeEnvironment (mergeEnvironment base o) o = mergeEnvironment base o := by
  rw [mergeEnvironment_merge, Dict.overlay_self]

/-! ## the order of the overrides -/

/-- the merge that visits the overrides in the order of a list, where `mergeEnvironment` visits them
in the order of their names -/
def mergeInOrder (base overrides : List (String × String)) : List (String × String) :=
  (overrides.foldl (fun d e => d.insert e.1 e.2) (Dict.ofList base)).entries

theorem mergeInOrder_eq {overrides : List (String × String)} (h : overrides.Perm o.entries)
    (base : List (String × String)) : mergeInOrder base overrides = mergeEnvironment base o := by
  rw [mergeInOrder, Dict.foldl_insert_of_perm h, mergeEnvironment]

/-- **Merging is an overlay of maps.**  The names ascend and are those of the variables and of the
overrides; the value of a name is that of its override, and without one the last that the list gives
it.  To merge twice is to merge once with the second map put over the first, to merge the same map
again changes nothing, and the overrides can be visited in any order. -/
theorem mergeEnvironment_overlay (base : List (String × String)) (o : Dict String) :
    ((mergeEnvironment base o).map Prod.fst).Pairwise (· < ·) ∧
    (∀ k, k ∈ (mergeEnvironment base o).map Prod.fst ↔ k ∈ base.map Prod.fst ∨ k ∈ o.keys) ∧
    (∀ k v, (k, v) ∈ mergeEnvironment base o ↔
      o.get? k = some v ∨
        (o.get? k = none ∧ ∃ a b, base = a ++ (k, v) :: b ∧ ∀ e ∈ b, e.1 ≠ k)) ∧
    (∀ o', mergeEnvironment (mergeEnvironment base o) o' = mergeEnvironment base (o.overlay o') ∧
      ∀ k, (o.overlay o').get? k = (o'.get? k).or (o.get? k)) ∧
    mergeEnvironment (mergeEnvironment base o) o = mergeEnvironment base o ∧
    (∀ overrides, overrides.Perm o.entries →
      mergeInOrder base overrides = mergeEnvironment base o) := by
  refine ⟨keys_mergeEnvironment_sorted base o, fun k => mem_keys_mergeEnvironment, ?_, ?_,
    mergeEnvironment_again base o, fun overrides h => mergeInOrder_eq h base⟩
  · intro k v
    rw [mem_mergeEnvironment_iff, Entries.lookup_reverse_eq_some_iff]
  · intro o'
    exact ⟨mergeEnvironment_merge base o o', Dict.get?_overlay o o'⟩

/-- a variable that is named twice and another one that is overridden, visited last to first -/
theorem mergeEnvironment_overlay_repeated :
    let base := [("PATH", "/bin"), ("HOME", "/root"), ("PATH", "/usr/bin")]
    let o : Dict String := .ofList [("HOME", "/tmp"), ("API_KEY", "secret")]
    ("PATH", "/usr/bin") ∈ mergeEnvironment base o ∧
      mergeInOrder base [("HOME", "/tmp"), ("API_KEY", "secret")] = mergeEnvironment base o ∧
      mergeEnvironment base o =
        [("API_KEY", "secret"), ("HOME", "/tmp"), ("PATH", "/usr/bin")] := by
  intro base o
  obtain ⟨-, -, hvalue, -, -, horder⟩ := mergeEnvironment_overlay base o
  refine ⟨?_, horder _ (by decide +kernel), by decide +kernel⟩
  exact (hvalue _ _).2 (.inr ⟨by decide +kernel, [("PATH", "/bin"), ("HOME", "/root")], [], rfl,
    by simp⟩)

end PromptDispatch

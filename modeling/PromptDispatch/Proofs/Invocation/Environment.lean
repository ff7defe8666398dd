import Mathlib.Data.List.Nodup
import PromptDispatch.Proofs.Invocation.Merge
import PromptDispatch.Proofs.Text.Utf8

/-!
# What is in a child's environment

Variables are set one after the other, each in the place of an older one of its name
(`mem_setVariable`, `mem_withTexts`).  A child has the overrides and, byte for byte, what
its parent has under other names (`mem_childEnvironment`), though only the variables that are text
are copied and, without overrides, none at all (`childEnvironment_without_overrides`).
-/

namespace PromptDispatch

variable {vars ambient : List RawVariable} {v w : RawVariable}

/-! ## setting variables -/

def NamesDistinct (vars : List RawVariable) : Prop := (vars.map RawVariable.name).Nodup

instance (vars : List RawVariable) : Decidable (NamesDistinct vars) :=
  inferInstanceAs (Decidable (List.Nodup _))

theorem NamesDistinct.eq (h : NamesDistinct vars) (hv : v ∈ vars) (hw : w ∈ vars)
    (hname : v.name = w.name) : v = w :=
  List.inj_on_of_nodup_map h hv hw hname

theorem mem_setVariable :
    w ∈ setVariable vars v ↔ w = v ∨ (w ∈ vars ∧ w.name ≠ v.name) := by
  rw [setVariable]
  split
  · rename_i h
    obtain ⟨x, hx, hname⟩ : ∃ x ∈ vars, x.name = v.name := by simpa using h
    rw [List.mem_map]
    constructor
    · rintro ⟨y, hy, rfl⟩
      split
      · exact .inl rfl
      · exact .inr ⟨hy, by assumption⟩
    · rintro (rfl | ⟨hw, hne⟩)
      · exact ⟨x, hx, if_pos hname⟩
      · exact ⟨w, hw, if_neg hne⟩
  · rename_i h
    have hnew : ∀ x ∈ vars, x.name ≠ v.name := by simpa using h
    rw [List.mem_append, List.mem_singleton, or_comm]
    exact or_congr_right ⟨fun hw => ⟨hw, hnew w hw⟩, And.left⟩

theorem namesDistinct_setVariable (h : NamesDistinct vars) (v : RawVariable) :
    NamesDistinct (setVariable vars v) := by
  rw [setVariable]
  split
  · -- the variable takes the place of one with its name, so that the names stay
    have hname : ∀ w : RawVariable, (if w.name = v.name then v else w).name = w.name := by
      intro w
      split
      · exact Eq.symm (by assumption)
      · rfl
    rw [NamesDistinct, List.map_map]
    exact (List.map_congr_left fun w _ => hname w) ▸ h
  · rename_i hnew
    have hnew : ∀ x ∈ vars, x.name ≠ v.name := by simpa using hnew
    rw [NamesDistinct, List.map_append, List.map_singleton]
    refine List.nodup_append.2 ⟨h, List.nodup_singleton _, fun a ha b hb => ?_⟩
    obtain ⟨x, hx, rfl⟩ := List.mem_map.1 ha
    rw [List.mem_singleton.1 hb]
    exact hnew x hx

theorem setVariable_eq_self (h : NamesDistinct vars) (hv : v ∈ vars) :
    setVariable vars v = vars := by
  have hany : vars.any (·.name = v.name) = true := List.any_eq_true.2 ⟨v, hv, by simp⟩
  rw [setVariable, if_pos hany]
  refine (List.map_congr_left fun w hw => ?_).trans (List.map_id vars)
  split
  · exact h.eq hv hw (Eq.symm (by assumption))
  · rfl

/-! ## setting a list of texts -/

/-- the variables of a parent with texts set over them, in order -/
def withTexts (vars : List RawVariable) (texts : List (String × String)) : List RawVariable :=
  texts.foldl (fun acc e => setVariable acc (.ofText e)) vars

theorem RawVariable.eq_of_name_ofText {e e' : String × String}
    (h : (ofText e).name = (ofText e').name) : e.1 = e'.1 :=
  String.toList_injective (Text.encode_injective h)

variable {texts : List (String × String)}

theorem mem_withTexts (htexts : (texts.map Prod.fst).Nodup) :
    w ∈ withTexts vars texts ↔
      (∃ e ∈ texts, w = .ofText e) ∨
        (w ∈ vars ∧ ∀ e ∈ texts, w.name ≠ (RawVariable.ofText e).name) := by
  induction texts generalizing vars with
  | nil => simp [withTexts]
  | cons e r ih =>
    obtain ⟨he, hr⟩ := List.nodup_cons.1 htexts
    have hnew : ∀ e' ∈ r, (RawVariable.ofText e).name ≠ (RawVariable.ofText e').name :=
      fun e' he' hname => he (RawVariable.eq_of_name_ofText hname ▸ List.mem_map_of_mem he')
    rw [withTexts, List.foldl_cons, ← withTexts, ih hr, mem_setVariable]
    simp only [List.mem_cons, exists_eq_or_imp, forall_eq_or_imp]
    constructor
    · rintro (h | ⟨rfl | ⟨hw, hne⟩, hrest⟩)
      · exact .inl (.inr h)
      · exact .inl (.inl rfl)
      · exact .inr ⟨hw, hne, hrest⟩
    · rintro ((rfl | h) | ⟨hw, hne, hrest⟩)
      · exact .inr ⟨.inl rfl, hnew⟩
      · exact .inl h
      · exact .inr ⟨.inr ⟨hw, hne⟩, hrest⟩

theorem namesDistinct_withTexts (h : NamesDistinct vars) :
    NamesDistinct (withTexts vars texts) := by
  induction texts generalizing vars with
  | nil => exact h
  | cons e r ih => exact ih (namesDistinct_setVariable h _)

theorem withTexts_eq_self (h : NamesDistinct vars) (htexts : ∀ e ∈ texts, .ofText e ∈ vars) :
    withTexts vars texts = vars := by
  induction texts with
  | nil => rfl
  | cons e r ih =>
    obtain ⟨he, hr⟩ := List.forall_mem_cons.1 htexts
    rw [withTexts, List.foldl_cons, setVariable_eq_self h he]
    exact ih hr

/-! ## the snapshot -/

theorem RawVariable.ofText_of_text? {e : String × String} (h : v.text? = some e) :
    ofText e = v := by
  obtain ⟨name, hname, h⟩ := Option.bind_eq_some_iff.1 h
  obtain ⟨value, hvalue, rfl⟩ := Option.map_eq_some_iff.1 h
  simp only [ofText, String.toList_ofList, Text.encode_of_decode? hname,
    Text.encode_of_decode? hvalue]

theorem ofText_mem_of_mem_snapshot {e : String × String} (h : e ∈ snapshot ambient) :
    .ofText e ∈ ambient := by
  obtain ⟨v, hv, htext⟩ := List.mem_filterMap.1 h
  rwa [RawVariable.ofText_of_text? htext]

theorem nodup_keys_snapshot (h : NamesDistinct ambient) :
    ((snapshot ambient).map Prod.fst).Nodup := by
  have hne := List.pairwise_map.1 h
  rw [List.Nodup, List.pairwise_map, snapshot, List.pairwise_filterMap]
  refine hne.imp fun {v w} hvw e he e' he' hkey => hvw ?_
  rw [← RawVariable.ofText_of_text? he, ← RawVariable.ofText_of_text? he']
  exact congrArg (fun k : String => Text.encode k.toList) hkey

/-! ## the child -/

variable {overrides : Dict String}

/-- what is set for a child: an override, or a variable of the parent that is text -/
theorem mem_mergeEnvironment (h : NamesDistinct ambient) {name value : String} :
    (name, value) ∈ mergeEnvironment (snapshot ambient) overrides ↔
      overrides.get? name = some value ∨
        (overrides.get? name = none ∧ (name, value) ∈ snapshot ambient) := by
  have hkeys := nodup_keys_snapshot h
  rw [mem_mergeEnvironment_iff, Entries.lookup_reverse hkeys, Entries.lookup_eq_some_iff_mem hkeys]

theorem childEnvironment_some (ambient : List RawVariable) (texts : List (String × String)) :
    childEnvironment ambient (some texts) = withTexts ambient texts := rfl

/-- A child has the overrides, and what its parent has under other names. -/
theorem mem_childEnvironment (h : NamesDistinct ambient) :
    w ∈ childEnvironment ambient (processEnvironment ambient overrides) ↔
      (∃ name value, overrides.get? name = some value ∧ w = .ofText (name, value)) ∨
        (w ∈ ambient ∧ ∀ name, (overrides.get? name).isSome = true →
          w.name ≠ Text.encode name.toList) := by
  rw [processEnvironment]
  split
  · rename_i hempty
    have hnone : ∀ name, overrides.get? name = none := fun name => by
      rw [Dict.get?, List.isEmpty_iff.1 hempty]
      rfl
    simp [hnone, childEnvironment]
  · have hkeys : ((mergeEnvironment (snapshot ambient) overrides).map Prod.fst).Nodup :=
      Entries.Sorted.nodup (Dict.sorted _)
    rw [childEnvironment_some, mem_withTexts hkeys]
    constructor
    · rintro (⟨⟨name, value⟩, he, rfl⟩ | ⟨hw, hnew⟩)
      · rcases (mem_mergeEnvironment h).1 he with hset | ⟨hunset, hsnapshot⟩
        · exact .inl ⟨name, value, hset, rfl⟩
        · refine .inr ⟨ofText_mem_of_mem_snapshot hsnapshot, fun name' hset hname => ?_⟩
          rw [← String.toList_injective (Text.encode_injective hname), hunset] at hset
          cases hset
      · refine .inr ⟨hw, fun name hset => ?_⟩
        obtain ⟨value, hvalue⟩ := Option.isSome_iff_exists.1 hset
        exact hnew (name, value) ((mem_mergeEnvironment h).2 (.inl hvalue))
    · rintro (⟨name, value, hset, rfl⟩ | ⟨hw, hnew⟩)
      · exact .inl ⟨(name, value), (mem_mergeEnvironment h).2 (.inl hset), rfl⟩
      · -- a variable that is text is set to itself, any other is left alone
        refine Classical.or_iff_not_imp_right.2 fun hset => ?_
        obtain ⟨⟨name, value⟩, he, hname⟩ :
            ∃ e ∈ mergeEnvironment (snapshot ambient) overrides,
              w.name = (RawVariable.ofText e).name := by
          by_contra hno
          exact hset ⟨hw, fun e he hname => hno ⟨e, he, hname⟩⟩
        rcases (mem_mergeEnvironment h).1 he with hset | ⟨-, hsnapshot⟩
        · exact absurd hname (hnew name (by rw [hset]; rfl))
        · exact ⟨(name, value), he, h.eq hw (ofText_mem_of_mem_snapshot hsnapshot) hname⟩

theorem namesDistinct_childEnvironment (h : NamesDistinct ambient)
    (env : Option (List (String × String))) : NamesDistinct (childEnvironment ambient env) := by
  cases env with
  | none => exact h
  | some texts => exact namesDistinct_withTexts h

/-- to inherit is to set every variable that is text to itself -/
theorem childEnvironment_without_overrides (h : NamesDistinct ambient) :
    childEnvironment ambient (processEnvironment ambient .empty) =
      childEnvironment ambient (some (mergeEnvironment (snapshot ambient) .empty)) := by
  refine (withTexts_eq_self h fun e he => ?_).symm
  rcases (mem_mergeEnvironment h).1 he with hset | ⟨-, hsnapshot⟩
  · cases hset
  · exact ofText_mem_of_mem_snapshot hsnapshot

end PromptDispatch

import PromptDispatch.Dict

/-!
# Which entries a sorted list has

Where the keys of a list are distinct, looking a key up finds the one entry of it, and `ofList` has
the entries of the list, no more and no fewer (`mem_ofList`), so that two such lists give the same
map if they differ in order alone (`ofList_eq_iff_perm`).  The keys of a map are those under
which something is found (`Dict.mem_keys_iff`), and where one map is put over another, the upper
one is looked up first (`Dict.get?_overlay`), in whatever order its entries are put in place
(`Dict.foldl_insert_of_perm`).
-/

namespace PromptDispatch.Entries

variable {α : Type} {l : List (String × α)}

theorem Sorted.nodup (h : Sorted l) : (l.map Prod.fst).Nodup :=
  List.Pairwise.imp String.ne_of_lt h

theorem mem_of_lookup {k : String} {v : α} (h : l.lookup k = some v) : (k, v) ∈ l := by
  obtain ⟨a, b, rfl, -⟩ := List.lookup_eq_some_iff.1 h
  exact List.mem_append_right a List.mem_cons_self

theorem lookup_eq_some_iff_mem (h : (l.map Prod.fst).Nodup) {k : String} {v : α} :
    l.lookup k = some v ↔ (k, v) ∈ l := by
  refine ⟨mem_of_lookup, fun hm => ?_⟩
  induction l with
  | nil => cases hm
  | cons e r ih =>
    obtain ⟨he, hr⟩ := List.nodup_cons.1 h
    rw [lookup_cons]
    rcases List.mem_cons.1 hm with rfl | hm
    · exact if_pos rfl
    · have hne : k ≠ e.1 := fun hk => he (hk ▸ List.mem_map_of_mem hm)
      rw [if_neg hne]
      exact ih hr hm

/-- the same for values that hold their own keys -/
theorem find?_eq_some_iff_mem {β κ : Type} [DecidableEq κ] {key : β → κ} {l : List β}
    (h : (l.map key).Nodup) {k : κ} {x : β} :
    l.find? (fun y => key y = k) = some x ↔ x ∈ l ∧ key x = k := by
  refine ⟨fun hfound => ⟨List.mem_of_find?_eq_some hfound, by simpa using List.find?_some hfound⟩,
    ?_⟩
  rintro ⟨hx, rfl⟩
  induction l with
  | nil => cases hx
  | cons y r ih =>
    obtain ⟨hy, hr⟩ := List.nodup_cons.1 h
    rw [List.find?_cons]
    rcases List.mem_cons.1 hx with rfl | hx
    · simp
    · have hne : key y ≠ key x := fun hk => hy (hk ▸ List.mem_map_of_mem hx)
      simpa [hne] using ih hr hx

theorem lookup_isSome_iff {k : String} : (l.lookup k).isSome ↔ k ∈ l.map Prod.fst := by
  rw [List.lookup_isSome_iff, List.mem_map]
  exact exists_congr fun e => and_congr_right fun _ => by rw [beq_iff_eq, eq_comm]

/-- the last value of a key has none after it -/
theorem lookup_reverse_eq_some_iff {k : String} {v : α} :
    l.reverse.lookup k = some v ↔ ∃ a b, l = a ++ (k, v) :: b ∧ ∀ e ∈ b, e.1 ≠ k := by
  rw [List.lookup_eq_some_iff]
  constructor
  · rintro ⟨b, a, hl, hb⟩
    refine ⟨a.reverse, b.reverse, ?_, fun e he hk => ?_⟩
    · rw [← List.reverse_reverse l, hl]
      simp
    · simpa [hk] using hb e (List.mem_reverse.1 he)
  · rintro ⟨a, b, rfl, hb⟩
    refine ⟨b.reverse, a.reverse, by simp, fun e he => ?_⟩
    simpa using Ne.symm (hb e (List.mem_reverse.1 he))

theorem lookup_reverse_eq_none_iff {k : String} :
    l.reverse.lookup k = none ↔ ∀ e ∈ l, e.1 ≠ k := by
  rw [List.lookup_eq_none_iff]
  constructor
  · intro h e he hk
    simpa [hk] using h e (List.mem_reverse.2 he)
  · intro h e he
    simpa using Ne.symm (h e (List.mem_reverse.1 he))

theorem lookup_perm {l' : List (String × α)} (hperm : l'.Perm l) (h : (l.map Prod.fst).Nodup)
    (k : String) : l'.lookup k = l.lookup k := by
  have h' : (l'.map Prod.fst).Nodup := (hperm.map Prod.fst).nodup_iff.2 h
  refine Option.ext fun v => ?_
  rw [lookup_eq_some_iff_mem h', lookup_eq_some_iff_mem h, hperm.mem_iff]

theorem lookup_reverse (h : (l.map Prod.fst).Nodup) (k : String) :
    l.reverse.lookup k = l.lookup k :=
  lookup_perm (List.reverse_perm l) h k

theorem mem_ofList (h : (l.map Prod.fst).Nodup) {e : String × α} : e ∈ ofList l ↔ e ∈ l := by
  rw [← lookup_eq_some_iff_mem (sorted_ofList l).nodup, lookup_ofList, lookup_reverse h,
    lookup_eq_some_iff_mem h]

/-- the keys of `ofList` are the keys of the list, repeated or not -/
theorem mem_keys_ofList {k : String} : k ∈ (ofList l).map Prod.fst ↔ k ∈ l.map Prod.fst := by
  rw [← lookup_isSome_iff, lookup_ofList, lookup_isSome_iff, List.map_reverse, List.mem_reverse]

theorem mem_of_mem_ofList {e : String × α} (h : e ∈ ofList l) : e ∈ l := by
  rw [← lookup_eq_some_iff_mem (sorted_ofList l).nodup, lookup_ofList] at h
  exact List.mem_reverse.1 (mem_of_lookup h)

/-! ## lists that are sorted -/

theorem insert_eq_append {k : String} {v : α} (h : ∀ e ∈ l, e.1 < k) :
    insert k v l = l ++ [(k, v)] := by
  induction l with
  | nil => rfl
  | cons e r ih =>
    have he : e.1 < k := h e List.mem_cons_self
    rw [insert, if_neg (String.lt_asymm he), if_neg (String.ne_of_lt he).symm,
      ih fun x hx => h x (List.mem_cons_of_mem e hx), List.cons_append]

theorem foldl_insert_eq_append {acc : List (String × α)} (h : Sorted (acc ++ l)) :
    l.foldl (fun acc e => insert e.1 e.2 acc) acc = acc ++ l := by
  induction l generalizing acc with
  | nil => exact (List.append_nil acc).symm
  | cons e r ih =>
    have hacc : ∀ x ∈ acc, x.1 < e.1 := by
      intro x hx
      rw [Sorted, List.map_append] at h
      exact (List.pairwise_append.1 h).2.2 x.1 (List.mem_map_of_mem hx) e.1 List.mem_cons_self
    have happend : acc ++ e :: r = (acc ++ [e]) ++ r := List.append_cons acc e r
    rw [List.foldl_cons, insert_eq_append hacc, happend]
    exact ih (happend ▸ h)

theorem ofList_eq_self (h : Sorted l) : ofList l = l := foldl_insert_eq_append h

end PromptDispatch.Entries

namespace PromptDispatch.Dict

variable {α : Type} {d : Dict α} {k : String}

/-! ## maps -/

theorem get?_eq_some_iff_mem {v : α} : d.get? k = some v ↔ (k, v) ∈ d.entries :=
  Entries.lookup_eq_some_iff_mem d.sorted.nodup

theorem mem_keys_iff : k ∈ d.keys ↔ (d.get? k).isSome = true := Entries.lookup_isSome_iff.symm

theorem mem_keys_insert {k' : String} {v : α} :
    k' ∈ (d.insert k v).keys ↔ k' = k ∨ k' ∈ d.keys := by
  rw [mem_keys_iff, mem_keys_iff, get?_insert]
  split <;> simp_all

theorem get?_foldl_insert (l : List (String × α)) :
    (l.foldl (fun acc e => acc.insert e.1 e.2) d).get? k = (l.reverse.lookup k).or (d.get? k) := by
  induction l generalizing d with
  | nil => rfl
  | cons e r ih =>
    rw [List.foldl_cons, ih, get?_insert, List.reverse_cons, List.lookup_append, Option.or_assoc,
      Entries.lookup_cons]
    split <;> rfl

theorem get?_overlay (d e : Dict α) (k : String) :
    (d.overlay e).get? k = (e.get? k).or (d.get? k) := by
  rw [overlay, get?_foldl_insert, Entries.lookup_reverse e.sorted.nodup]
  rfl

theorem mem_keys_ofList {l : List (String × α)} : k ∈ (ofList l).keys ↔ k ∈ l.map Prod.fst :=
  Entries.mem_keys_ofList

theorem ext_get? {e : Dict α} (h : ∀ k, d.get? k = e.get? k) : d = e := by
  have hd : d.entries.Pairwise (fun x y => x.1 < y.1) := List.pairwise_map.1 d.sorted
  have he : e.entries.Pairwise (fun x y => x.1 < y.1) := List.pairwise_map.1 e.sorted
  have hne : ∀ x y : String × α, x.1 < y.1 → x ≠ y := fun x y hlt heq =>
    String.ne_of_lt hlt (congrArg Prod.fst heq)
  have hmem : ∀ x, x ∈ d.entries ↔ x ∈ e.entries := by
    rintro ⟨k, v⟩
    rw [← get?_eq_some_iff_mem, ← get?_eq_some_iff_mem, h k]
  have hperm : d.entries.Perm e.entries :=
    (List.perm_ext_iff_of_nodup (hd.imp (hne _ _)) (he.imp (hne _ _))).2 hmem
  refine ext (List.Perm.eq_of_pairwise ?_ hd he hperm)
  intro x y _ _ hxy hyx
  exact absurd hyx (String.lt_asymm hxy)

theorem mem_keys_foldl_insert {β : Type} (v : β → α) (l : List (String × β)) :
    k ∈ (l.foldl (fun d e => d.insert e.1 (v e.2)) d).keys ↔ k ∈ l.map Prod.fst ∨ k ∈ d.keys := by
  induction l generalizing d with
  | nil => simp
  | cons e r ih =>
    rw [List.foldl_cons, ih, mem_keys_insert, List.map_cons, List.mem_cons, ← or_assoc,
      or_comm (b := k = e.1)]

/-! ## one map over another -/

theorem ofList_entries (d : Dict α) : ofList d.entries = d := ext (Entries.ofList_eq_self d.sorted)

theorem mem_keys_overlay {e : Dict α} : k ∈ (d.overlay e).keys ↔ k ∈ d.keys ∨ k ∈ e.keys := by
  rw [mem_keys_iff, mem_keys_iff, mem_keys_iff, get?_overlay, Option.isSome_or, Bool.or_eq_true,
    or_comm]

theorem overlay_assoc (d e f : Dict α) : (d.overlay e).overlay f = d.overlay (e.overlay f) :=
  ext_get? fun k => by rw [get?_overlay, get?_overlay, get?_overlay, get?_overlay, Option.or_assoc]

theorem overlay_self (d : Dict α) : d.overlay d = d :=
  ext_get? fun k => by rw [get?_overlay, Option.or_self]

/-- the entries of a map can be put over another one in any order -/
theorem foldl_insert_of_perm {e : Dict α} {l : List (String × α)} (h : l.Perm e.entries) :
    l.foldl (fun d x => d.insert x.1 x.2) d = d.overlay e := by
  have hnodup : (l.map Prod.fst).Nodup := (h.map Prod.fst).nodup_iff.2 e.sorted.nodup
  refine ext_get? fun k => ?_
  rw [get?_foldl_insert, get?_overlay, Entries.lookup_reverse hnodup,
    Entries.lookup_perm h e.sorted.nodup]
  rfl

end PromptDispatch.Dict

namespace PromptDispatch.Entries

/-! ## lists without repeated keys -/

variable {α : Type} {l l' : List (String × α)}

theorem nodup_of_nodup_keys (h : (l.map Prod.fst).Nodup) : l.Nodup :=
  (List.pairwise_map.1 h).imp fun hne heq => hne (congrArg Prod.fst heq)

theorem ofList_perm (h : (l.map Prod.fst).Nodup) : (ofList l).Perm l :=
  (List.perm_ext_iff_of_nodup (nodup_of_nodup_keys (sorted_ofList l).nodup)
    (nodup_of_nodup_keys h)).2 fun _ => mem_ofList h

theorem ofList_eq_iff_perm (h : (l.map Prod.fst).Nodup) (h' : (l'.map Prod.fst).Nodup) :
    ofList l = ofList l' ↔ l.Perm l' := by
  constructor
  · intro heq
    exact (ofList_perm h).symm.trans (heq ▸ ofList_perm h')
  · intro hperm
    have hsame : Dict.ofList l = Dict.ofList l' := Dict.ext_get? fun k => by
      rw [Dict.get?_ofList, Dict.get?_ofList, lookup_reverse h, lookup_reverse h',
        lookup_perm hperm h']
    exact congrArg Dict.entries hsame

end PromptDispatch.Entries

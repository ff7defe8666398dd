/-!
# Entries sorted by key

A list of keyed values in strictly ascending key order stands for a finite map.  `insert` puts a
value in place, over an older one of its key; `ofList` inserts from left to right, so that the last
value of a key stays.  Keys are compared by code point.
-/

namespace PromptDispatch.Entries

variable {α : Type}

/-! ## order -/

/-- strictly ascending keys -/
def Sorted (l : List (String × α)) : Prop := (l.map Prod.fst).Pairwise (· < ·)

instance (l : List (String × α)) : Decidable (Sorted l) :=
  inferInstanceAs (Decidable (List.Pairwise _ _))

theorem sorted_nil : Sorted ([] : List (String × α)) := List.Pairwise.nil

theorem sorted_cons {e : String × α} {l : List (String × α)} :
    Sorted (e :: l) ↔ (∀ x ∈ l, e.1 < x.1) ∧ Sorted l := by
  simp [Sorted]

theorem lt_of_not_lt {a b : String} (h : ¬ a < b) (hne : a ≠ b) : b < a := by
  refine Classical.byContradiction fun h' => hne ?_
  exact String.le_antisymm (String.not_lt.1 h') (String.not_lt.1 h)

theorem lookup_cons (k : String) (e : String × α) (l : List (String × α)) :
    (e :: l).lookup k = if k = e.1 then some e.2 else l.lookup k := by
  rw [List.lookup_cons]
  by_cases h : k = e.1
  · simp [h]
  · rw [beq_eq_false_iff_ne.2 h, if_neg h]

/-! ## putting a value in place -/

def insert (k : String) (v : α) : List (String × α) → List (String × α)
  | [] => [(k, v)]
  | e :: r =>
    if k < e.1 then (k, v) :: e :: r
    else if k = e.1 then (k, v) :: r
    else e :: insert k v r

theorem mem_insert {k : String} {v : α} {l : List (String × α)} {x : String × α}
    (h : x ∈ insert k v l) : x = (k, v) ∨ x ∈ l := by
  induction l with
  | nil => simpa [insert] using h
  | cons e r ih =>
    rw [insert] at h
    split at h
    · simpa using h
    · split at h
      · rcases List.mem_cons.1 h with h | h
        · exact .inl h
        · exact .inr (List.mem_cons_of_mem _ h)
      · rcases List.mem_cons.1 h with h | h
        · exact .inr (h ▸ List.mem_cons_self)
        · exact (ih h).imp_right (List.mem_cons_of_mem _)

theorem sorted_insert (k : String) (v : α) {l : List (String × α)} (h : Sorted l) :
    Sorted (insert k v l) := by
  induction l with
  | nil => simp [insert, Sorted]
  | cons e r ih =>
    obtain ⟨he, hr⟩ := sorted_cons.1 h
    rw [insert]
    split
    · rename_i hk
      refine sorted_cons.2 ⟨fun x hx => ?_, h⟩
      rcases List.mem_cons.1 hx with rfl | hx
      · exact hk
      · exact String.lt_trans hk (he x hx)
    · split
      · rename_i hk
        subst hk
        exact sorted_cons.2 ⟨he, hr⟩
      · rename_i hlt hne
        refine sorted_cons.2 ⟨fun x hx => ?_, ih hr⟩
        rcases mem_insert hx with rfl | hx
        · exact lt_of_not_lt hlt hne
        · exact he x hx

theorem lookup_insert (k k' : String) (v : α) (l : List (String × α)) :
    (insert k v l).lookup k' = if k' = k then some v else l.lookup k' := by
  induction l with
  | nil => rw [insert, lookup_cons]
  | cons e r ih =>
    rw [insert]
    split
    · rw [lookup_cons]
    · split
      · rename_i h
        rw [lookup_cons, lookup_cons, ← h]
        by_cases hk : k' = k <;> simp [hk]
      · rename_i h
        rw [lookup_cons, lookup_cons, ih]
        by_cases hk : k' = e.1
        · subst hk
          simp [Ne.symm h]
        · simp [hk]

/-! ## from a list -/

/-- the entries of a list; of a repeated key the last value stays -/
def ofList (l : List (String × α)) : List (String × α) :=
  l.foldl (fun acc e => insert e.1 e.2 acc) []

theorem sorted_foldl_insert (l : List (String × α)) {acc : List (String × α)} (h : Sorted acc) :
    Sorted (l.foldl (fun acc e => insert e.1 e.2 acc) acc) := by
  induction l generalizing acc with
  | nil => exact h
  | cons e r ih => exact ih (sorted_insert _ _ h)

theorem sorted_ofList (l : List (String × α)) : Sorted (ofList l) :=
  sorted_foldl_insert l sorted_nil

theorem lookup_foldl_insert (k : String) (l acc : List (String × α)) :
    (l.foldl (fun acc e => insert e.1 e.2 acc) acc).lookup k =
      (l.reverse.lookup k).or (acc.lookup k) := by
  induction l generalizing acc with
  | nil => simp
  | cons e r ih =>
    rw [List.foldl_cons, ih, lookup_insert, List.reverse_cons, List.lookup_append, lookup_cons]
    by_cases h : k = e.1 <;> simp [h]

theorem lookup_ofList (k : String) (l : List (String × α)) :
    (ofList l).lookup k = l.reverse.lookup k := by
  simp [ofList, lookup_foldl_insert]

end PromptDispatch.Entries

import PromptDispatch.Json.Reader
import PromptDispatch.Proofs.Dict.Entries
import PromptDispatch.Proofs.Json.Tokens

/-!
# Reading what was written

A value that was read from a text and has only integers for its numbers is read back from what
`Json.pretty` writes of it.  It goes by way of the tree that is written: a text is read to that tree
(`writes_prettyAt`), which has the value (`ofTree?_tree`) and is no deeper than the tree that the
value came from (`depth_tree_le`).

* `Json.isIntegral`        values without binary64 numbers;
* `Json.tree`              the tree that is written of a value;
* `canonical_of_ofTree?`   what is read has sorted members;
* `parse_pretty`           what is written is read back.
-/

namespace PromptDispatch.Json

/-! ## values without binary64 numbers -/

mutual
def isIntegral : Json → Bool
  | .num (.float _) => false
  | .arr items => integralItems items
  | .obj members => integralMembers members
  | _ => true

def integralItems : List Json → Bool
  | [] => true
  | v :: r => v.isIntegral && integralItems r

def integralMembers : List (String × Json) → Bool
  | [] => true
  | (_, v) :: r => v.isIntegral && integralMembers r
end

/-! ## the tree of a value -/

mutual
def tree : Json → Tree
  | .null => .null
  | .bool b => .bool b
  | .num n => .numeral n.text
  | .str s => .string (some s.toList)
  | .arr items => .array (treeItems items)
  | .obj members => .object (treeMembers members)

def treeItems : List Json → List Tree
  | [] => []
  | v :: r => v.tree :: treeItems r

def treeMembers : List (String × Json) → List (Option (List Char) × Tree)
  | [] => []
  | (k, v) :: r => (some k.toList, v.tree) :: treeMembers r
end

mutual
/-- a value that has sorted members is the value of its tree -/
theorem ofTree?_tree : ∀ v : Json, v.Canonical → v.isIntegral = true → ofTree? v.tree = some v
  | .null, _, _ => rfl
  | .bool _, _, _ => rfl
  | .num (.int n), _, _ => by
    rw [tree, ofTree?, Number.text, Numeral.number?_text]
    rfl
  | .str s, _, _ => by
    rw [tree, ofTree?, Option.map_some, String.ofList_toList]
  | .arr items, hc, hi => by
    rw [tree, ofTree?, ofItems?_treeItems items hc hi]
    rfl
  | .obj members, ⟨hs, hc⟩, hi => by
    rw [tree, ofTree?, ofMembers?_treeMembers members hc hi, Option.map_some,
      Entries.ofList_eq_self hs]

theorem ofItems?_treeItems : ∀ items : List Json, CanonicalItems items →
    integralItems items = true → ofItems? (treeItems items) = some items
  | [], _, _ => rfl
  | v :: r, ⟨hv, hr⟩, hi => by
    obtain ⟨hiv, hir⟩ := Bool.and_eq_true_iff.1 hi
    rw [treeItems, ofItems?, ofTree?_tree v hv hiv, ofItems?_treeItems r hr hir]
    rfl

theorem ofMembers?_treeMembers : ∀ members : List (String × Json), CanonicalMembers members →
    integralMembers members = true → ofMembers? (treeMembers members) = some members
  | [], _, _ => rfl
  | (k, v) :: r, ⟨hv, hr⟩, hi => by
    obtain ⟨hiv, hir⟩ := Bool.and_eq_true_iff.1 hi
    rw [treeMembers, ofMembers?, ofTree?_tree v hv hiv, ofMembers?_treeMembers r hr hir,
      Option.bind_some, Option.bind_some, Option.map_some, String.ofList_toList]
end

/-! ## values that were read -/

theorem canonicalMembers_iff {members : List (String × Json)} :
    CanonicalMembers members ↔ ∀ e ∈ members, e.2.Canonical := by
  induction members with
  | nil => simp [CanonicalMembers]
  | cons e r ih => simp [CanonicalMembers, ih]

mutual
/-- what is read has sorted members, at every level -/
theorem canonical_of_ofTree? : ∀ (t : Tree) {v : Json}, ofTree? t = some v → v.Canonical
  | .null, _, h | .bool _, _, h => by
    cases h
    exact trivial
  | .numeral _, _, h | .string _, _, h => by
    obtain ⟨_, _, rfl⟩ := Option.map_eq_some_iff.1 h
    exact trivial
  | .array items, _, h => by
    obtain ⟨vs, hvs, rfl⟩ := Option.map_eq_some_iff.1 h
    exact canonicalItems_of_ofItems? items hvs
  | .object members, _, h => by
    obtain ⟨ms, hms, rfl⟩ := Option.map_eq_some_iff.1 h
    have hcanonical := canonicalMembers_iff.1 (canonicalMembers_of_ofMembers? members hms)
    refine ⟨Entries.sorted_ofList ms, canonicalMembers_iff.2 fun e he => ?_⟩
    exact hcanonical e (Entries.mem_of_mem_ofList he)

theorem canonicalItems_of_ofItems? : ∀ (items : List Tree) {vs : List Json},
    ofItems? items = some vs → CanonicalItems vs
  | [], _, h => by
    cases h
    exact trivial
  | t :: r, _, h => by
    obtain ⟨v, hv, h⟩ := Option.bind_eq_some_iff.1 h
    obtain ⟨vs, hvs, rfl⟩ := Option.map_eq_some_iff.1 h
    exact ⟨canonical_of_ofTree? t hv, canonicalItems_of_ofItems? r hvs⟩

theorem canonicalMembers_of_ofMembers? : ∀ (members : List (Option (List Char) × Tree))
    {ms : List (String × Json)}, ofMembers? members = some ms → CanonicalMembers ms
  | [], _, h => by
    cases h
    exact trivial
  | (name, t) :: r, _, h => by
    obtain ⟨k, -, h⟩ := Option.bind_eq_some_iff.1 h
    obtain ⟨v, hv, h⟩ := Option.bind_eq_some_iff.1 h
    obtain ⟨ms, hms, rfl⟩ := Option.map_eq_some_iff.1 h
    exact ⟨canonical_of_ofTree? t hv, canonicalMembers_of_ofMembers? r hms⟩
end

/-! ## depth -/

theorem depthMembers_treeMembers_le_iff {members : List (String × Json)} {n : Nat} :
    Tree.depthMembers (treeMembers members) ≤ n ↔ ∀ e ∈ members, e.2.tree.depth ≤ n := by
  induction members with
  | nil => simp [treeMembers, Tree.depthMembers]
  | cons e r ih =>
    obtain ⟨k, v⟩ := e
    rw [treeMembers, Tree.depthMembers, Nat.max_le, ih, List.forall_mem_cons]

mutual
/-- what is written of a value is no deeper than what it was read from -/
theorem depth_tree_le : ∀ (t : Tree) {v : Json}, ofTree? t = some v → v.tree.depth ≤ t.depth
  | .null, _, h | .bool _, _, h => by
    cases h
    exact Nat.le_refl _
  | .numeral _, _, h | .string _, _, h => by
    obtain ⟨_, _, rfl⟩ := Option.map_eq_some_iff.1 h
    exact Nat.le_refl _
  | .array items, _, h => by
    obtain ⟨vs, hvs, rfl⟩ := Option.map_eq_some_iff.1 h
    exact Nat.succ_le_succ (depth_treeItems_le items hvs)
  | .object members, _, h => by
    obtain ⟨ms, hms, rfl⟩ := Option.map_eq_some_iff.1 h
    have hdepth := depthMembers_treeMembers_le_iff.1 (depth_treeMembers_le members hms)
    -- of a repeated name only the last value is written
    refine Nat.succ_le_succ (depthMembers_treeMembers_le_iff.2 fun e he => ?_)
    exact hdepth e (Entries.mem_of_mem_ofList he)

theorem depth_treeItems_le : ∀ (items : List Tree) {vs : List Json}, ofItems? items = some vs →
    Tree.depthItems (treeItems vs) ≤ Tree.depthItems items
  | [], _, h => by
    cases h
    exact Nat.le_refl _
  | t :: r, _, h => by
    obtain ⟨v, hv, h⟩ := Option.bind_eq_some_iff.1 h
    obtain ⟨vs, hvs, rfl⟩ := Option.map_eq_some_iff.1 h
    have hhead := depth_tree_le t hv
    have htail := depth_treeItems_le r hvs
    rw [treeItems, Tree.depthItems, Tree.depthItems]
    omega

theorem depth_treeMembers_le : ∀ (members : List (Option (List Char) × Tree))
    {ms : List (String × Json)}, ofMembers? members = some ms →
    Tree.depthMembers (treeMembers ms) ≤ Tree.depthMembers members
  | [], _, h => by
    cases h
    exact Nat.le_refl _
  | (name, t) :: r, _, h => by
    obtain ⟨k, -, h⟩ := Option.bind_eq_some_iff.1 h
    obtain ⟨v, hv, h⟩ := Option.bind_eq_some_iff.1 h
    obtain ⟨ms, hms, rfl⟩ := Option.map_eq_some_iff.1 h
    have hhead := depth_tree_le t hv
    have htail := depth_treeMembers_le r hms
    rw [treeMembers, Tree.depthMembers, Tree.depthMembers]
    omega
end

/-! ## the text of a value -/

open State

/-- what comes after a value inside of a written array or object -/
def Ends (rest : List Char) : Prop := ∃ c r, rest = c :: r ∧ (c = ',' ∨ c = '\n')

/-- where a value comes next, `s` is read to `t` by the time that it has ended -/
def Writes (s : List Char) (t : Tree) : Prop :=
  ∀ k rest, Ends rest → (⟨.value, k⟩ : State).run (s ++ rest) = (place t k).run rest

theorem Writes.of_run {s : List Char} {t : Tree}
    (h : ∀ k, (⟨.value, k⟩ : State).run s = some (place t k)) : Writes s t := by
  intro k rest _
  rw [run_append, h, Option.bind_some]

theorem writes_text (w : Whole) : Writes w.text (.numeral w.text) := by
  rintro k _ ⟨c, r, rfl, hc⟩
  obtain ⟨p, hp, hrun⟩ := run_text w k
  rw [run_append, hrun, Option.bind_some, run_cons, run_cons, step_numeral hp hc,
    List.reverse_reverse]

/-! ## ends of lines -/

section
variable {level : Nat} {rest : List Char}

theorem isSpace_of_mem_newline : ∀ c ∈ newline level, isSpace c = true := by
  intro c hc
  rcases List.mem_cons.1 hc with rfl | hc
  · rfl
  · rw [List.eq_of_mem_replicate hc]
    rfl

theorem ends_newline : Ends (newline level ++ rest) := ⟨_, _, rfl, .inr rfl⟩

theorem ends_prettyItems (items : List Json) (h : Ends rest) :
    Ends (prettyItems level items ++ rest) := by
  cases items with
  | nil => exact h
  | cons v r => exact ⟨_, _, rfl, .inl rfl⟩

theorem ends_prettyMembers (members : List (String × Json)) (h : Ends rest) :
    Ends (prettyMembers level members ++ rest) := by
  cases members with
  | nil => exact h
  | cons e r => exact ⟨_, _, rfl, .inl rfl⟩

theorem run_newline {st : State} (h : st.isBetween = true) (r : List Char) :
    st.run (newline level ++ r) = st.run r :=
  run_spaces h isSpace_of_mem_newline r

end

theorem exists_text (w : Whole) : ∃ c r, w.text = c :: r ∧ (c = '-' ∨ c.isDigit = true) := by
  rw [Whole.text]
  split
  · exact ⟨'-', _, rfl, .inl rfl⟩
  · obtain ⟨c, r, hcr⟩ :=
      List.exists_cons_of_ne_nil (Nat.toDigits_ne_nil (n := w.val.natAbs) (b := 10))
    have hdigit := Numeral.isDigit_of_mem_toDigits c (hcr ▸ List.mem_cons_self)
    exact ⟨c, r, hcr, .inr hdigit⟩

theorem exists_prettyAt (level : Nat) {v : Json} (h : v.isIntegral = true) :
    ∃ c r, prettyAt level v = c :: r ∧ isSpace c = false ∧ c ≠ ']' := by
  cases v with
  | null => exact ⟨_, _, rfl, rfl, by decide⟩
  | bool b => cases b <;> exact ⟨_, _, rfl, rfl, by decide⟩
  | num n =>
    cases n with
    | float x => cases h
    | int w =>
      obtain ⟨c, r, hcr, hc⟩ := exists_text w
      refine ⟨c, r, hcr, ?_⟩
      rcases hc with rfl | hdigit
      · exact ⟨rfl, by decide⟩
      · exact ⟨not_isSpace_of_not_isBlank (isBlank_of_isDigit hdigit), ne_of_isDigit hdigit rfl⟩
  | str s => exact ⟨_, _, rfl, rfl, by decide⟩
  | arr items => cases items <;> exact ⟨_, _, rfl, rfl, by decide⟩
  | obj members => cases members <;> exact ⟨_, _, rfl, rfl, by decide⟩

/-! ## items and members on their lines -/

section
variable {level : Nat} {s rest : List Char} {t : Tree}

theorem run_firstItem (h : Writes s t) (hs : ∃ c r, s = c :: r ∧ isSpace c = false ∧ c ≠ ']')
    (hends : Ends rest) (k : List Frame) :
    (⟨.firstItem, k⟩ : State).run (newline level ++ (s ++ rest)) =
      (⟨.afterItem [t], k⟩ : State).run rest := by
  have hvalue := h (.items [] :: k) rest hends
  obtain ⟨c, r, rfl, hspace, hclose⟩ := hs
  have hstep : (⟨.firstItem, k⟩ : State).step c = (⟨.value, .items [] :: k⟩ : State).step c := by
    rw [step_eq_take rfl, step_eq_take rfl]
    simp only [take, hspace, hclose, Bool.false_eq_true, if_false]
  rw [run_newline rfl, List.cons_append, run_cons, hstep]
  exact hvalue

theorem run_nextItem (h : Writes s t) (hends : Ends rest) (before : List Tree) (k : List Frame) :
    (⟨.afterItem before, k⟩ : State).run (',' :: (newline level ++ (s ++ rest))) =
      (⟨.afterItem (t :: before), k⟩ : State).run rest := by
  have hvalue := h (.items before :: k) rest hends
  rw [run_cons, (Reads.nextItem before k).step_eq, Option.bind_some, run_newline rfl]
  exact hvalue

/-- a member where its name can come next -/
theorem run_member (h : Writes s t) (hends : Ends rest) {st : State}
    {before : List (Option (List Char) × Tree)} {k : List Frame} (hst : st.isBetween = true)
    (hname : st.step '"' = some ⟨.name before {}, k⟩) (name : List Char) :
    st.run (newline level ++ (quote name ++ ':' :: ' ' :: (s ++ rest))) =
      (⟨.afterMember ((some name, t) :: before), k⟩ : State).run rest := by
  have hvalue := h (.member before (some name) :: k) rest hends
  have hspace : (⟨.value, .member before (some name) :: k⟩ : State).step ' ' =
      some ⟨.value, .member before (some name) :: k⟩ := rfl
  rw [run_newline hst, run_append, run_quote_name hname, Option.bind_some, run_cons,
    (Reads.member before (some name) k).step_eq, Option.bind_some, run_cons, hspace,
    Option.bind_some]
  exact hvalue

theorem run_closeArray (before : List Tree) (k : List Frame) :
    (⟨.afterItem before, k⟩ : State).run (newline level ++ [']']) =
      some (place (.array before.reverse) k) := by
  rw [run_newline rfl]
  rfl

theorem run_closeObject (before : List (Option (List Char) × Tree)) (k : List Frame) :
    (⟨.afterMember before, k⟩ : State).run (newline level ++ ['}']) =
      some (place (.object before.reverse) k) := by
  rw [run_newline rfl]
  rfl

end

/-! ## whole values -/

mutual
/-- what is written of a value is read to its tree -/
theorem writes_prettyAt (level : Nat) : ∀ v : Json, v.isIntegral = true →
    Writes (prettyAt level v) v.tree
  | .null, _ => .of_run (run_word List.mem_cons_self)
  | .bool true, _ => .of_run (run_word (List.mem_cons_of_mem _ List.mem_cons_self))
  | .bool false, _ =>
    .of_run (run_word (List.mem_cons_of_mem _ (List.mem_cons_of_mem _ List.mem_cons_self)))
  | .num (.int n), _ => writes_text n
  | .str s, _ => .of_run (run_quote s.toList)
  | .arr [], _ => .of_run fun k => rfl
  | .arr (v :: r), h => by
    obtain ⟨hv, hr⟩ := Bool.and_eq_true_iff.1 h
    refine .of_run fun k => ?_
    have hopen : (⟨.value, k⟩ : State).step '[' = some ⟨.firstItem, k⟩ := rfl
    have hclose : Ends (newline level ++ [']']) := ends_newline
    simp only [prettyAt, List.cons_append, List.append_assoc]
    rw [run_cons, hopen, Option.bind_some,
      run_firstItem (writes_prettyAt (level + 1) v hv) (exists_prettyAt (level + 1) hv)
        (ends_prettyItems r hclose),
      run_prettyItems (level + 1) r hr _ _ _ hclose, run_closeArray]
    simp [tree, treeItems]
  | .obj [], _ => .of_run fun k => rfl
  | .obj ((name, v) :: r), h => by
    obtain ⟨hv, hr⟩ := Bool.and_eq_true_iff.1 h
    refine .of_run fun k => ?_
    have hopen : (⟨.value, k⟩ : State).step '{' = some ⟨.firstName, k⟩ := rfl
    have hclose : Ends (newline level ++ ['}']) := ends_newline
    simp only [prettyAt, List.cons_append, List.append_assoc]
    rw [run_cons, hopen, Option.bind_some,
      run_member (writes_prettyAt (level + 1) v hv) (ends_prettyMembers r hclose) rfl rfl,
      run_prettyMembers (level + 1) r hr _ _ _ hclose, run_closeObject]
    simp [tree, treeMembers]

theorem run_prettyItems (level : Nat) : ∀ items : List Json, integralItems items = true →
    ∀ before k rest, Ends rest →
      (⟨.afterItem before, k⟩ : State).run (prettyItems level items ++ rest) =
        (⟨.afterItem ((treeItems items).reverse ++ before), k⟩ : State).run rest
  | [], _, _, _, _, _ => rfl
  | v :: r, h, before, k, rest, hends => by
    obtain ⟨hv, hr⟩ := Bool.and_eq_true_iff.1 h
    simp only [prettyItems, List.cons_append, List.append_assoc]
    rw [run_nextItem (writes_prettyAt level v hv) (ends_prettyItems r hends),
      run_prettyItems level r hr _ _ _ hends]
    simp [treeItems]

theorem run_prettyMembers (level : Nat) : ∀ members : List (String × Json),
    integralMembers members = true → ∀ before k rest, Ends rest →
      (⟨.afterMember before, k⟩ : State).run (prettyMembers level members ++ rest) =
        (⟨.afterMember ((treeMembers members).reverse ++ before), k⟩ : State).run rest
  | [], _, _, _, _, _ => rfl
  | (name, v) :: r, h, before, k, rest, hends => by
    obtain ⟨hv, hr⟩ := Bool.and_eq_true_iff.1 h
    simp only [prettyMembers, List.cons_append, List.append_assoc]
    rw [run_cons, (Reads.nextMember before k).step_eq, Option.bind_some,
      run_member (writes_prettyAt level v hv) (ends_prettyMembers r hends) rfl rfl,
      run_prettyMembers level r hr _ _ _ hends]
    simp [treeMembers]
end

theorem read?_pretty {v : Json} (h : v.isIntegral = true) :
    Tree.read? (prettyAt 0 v ++ ['\n']) = some v.tree := by
  have hends : Ends ['\n'] := ⟨_, _, rfl, .inr rfl⟩
  rw [Tree.read?, start, writes_prettyAt 0 v h [] _ hends]
  rfl

/-- **A value that was read is read back from what is written of it**, if no number of it is a
binary64 number. -/
theorem parse_pretty {s : List Char} {v : Json} (h : parse s = some v)
    (hv : v.isIntegral = true) : parse (prettyAt 0 v ++ ['\n']) = some v := by
  obtain ⟨t, -, ht⟩ := Option.bind_eq_some_iff.1 h
  split at ht
  · rename_i hdepth
    have htree : v.tree.depth ≤ maxDepth := Nat.le_trans (depth_tree_le t ht) hdepth
    rw [parse, read?_pretty hv, Option.bind_some, if_pos htree]
    exact ofTree?_tree v (canonical_of_ofTree? t ht) hv
  · cases ht

end PromptDispatch.Json

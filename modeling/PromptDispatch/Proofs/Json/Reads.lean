import PromptDispatch.Json.Grammar

/-!
# The grammar of JSON as a relation

`State.Reads st c st'` lists what a character can do to a state, one case for each rule of the
grammar.  It is the relation that `State.step` computes (`step_eq_some_iff`), and facts about all
JSON texts are proved by cases on it: what each rule preserves, a whole text preserves
(`run_preserves`).
-/

namespace PromptDispatch.Json

/-- the words of the grammar, and the values that they write -/
def words : List (List Char × Tree) :=
  [(['n', 'u', 'l', 'l'], .null), (['t', 'r', 'u', 'e'], .bool true),
    (['f', 'a', 'l', 's', 'e'], .bool false)]

namespace State

def isBetween (st : State) : Bool :=
  match st.mode with
  | .value | .firstItem | .afterItem _ | .firstName | .nextName _ | .colon _ _ | .afterMember _
  | .root _ => true
  | _ => false

/-- the character `c` leads from one state to another -/
inductive Reads : State → Char → State → Prop
  | space {st : State} {c : Char} (h : st.isBetween = true) (hc : isSpace c = true) : Reads st c st
  | openObject (k) : Reads ⟨.value, k⟩ '{' ⟨.firstName, k⟩
  | openArray (k) : Reads ⟨.value, k⟩ '[' ⟨.firstItem, k⟩
  | openString (k) : Reads ⟨.value, k⟩ '"' ⟨.string {}, k⟩
  | openWord {c : Char} {rest v} (k) (h : (c :: rest, v) ∈ words) :
    Reads ⟨.value, k⟩ c ⟨.word rest v, k⟩
  | openNumeral {c : Char} {p} (k) (h : NumeralPart.first c = some p) :
    Reads ⟨.value, k⟩ c ⟨.numeral p [c], k⟩
  | firstItem {c : Char} {k st'} (hc : isSpace c = false)
    (h : Reads ⟨.value, .items [] :: k⟩ c st') : Reads ⟨.firstItem, k⟩ c st'
  | noItems (k) : Reads ⟨.firstItem, k⟩ ']' (place (.array []) k)
  | nextItem (before k) : Reads ⟨.afterItem before, k⟩ ',' ⟨.value, .items before :: k⟩
  | closeArray (before k) : Reads ⟨.afterItem before, k⟩ ']' (place (.array before.reverse) k)
  | firstName (k) : Reads ⟨.firstName, k⟩ '"' ⟨.name [] {}, k⟩
  | noMembers (k) : Reads ⟨.firstName, k⟩ '}' (place (.object []) k)
  | nextName (before k) : Reads ⟨.nextName before, k⟩ '"' ⟨.name before {}, k⟩
  | inName {c : Char} {s s'} (before k) (hc : ¬(c = '"' ∧ s.closes = true))
    (h : s.step c = some s') : Reads ⟨.name before s, k⟩ c ⟨.name before s', k⟩
  | closeName {s} (before k) (h : s.closes = true) :
    Reads ⟨.name before s, k⟩ '"' ⟨.colon before s.result, k⟩
  | member (before name k) : Reads ⟨.colon before name, k⟩ ':' ⟨.value, .member before name :: k⟩
  | nextMember (before k) : Reads ⟨.afterMember before, k⟩ ',' ⟨.nextName before, k⟩
  | closeObject (before k) : Reads ⟨.afterMember before, k⟩ '}' (place (.object before.reverse) k)
  | inString {c : Char} {s s'} (k) (hc : ¬(c = '"' ∧ s.closes = true)) (h : s.step c = some s') :
    Reads ⟨.string s, k⟩ c ⟨.string s', k⟩
  | closeString {s} (k) (h : s.closes = true) :
    Reads ⟨.string s, k⟩ '"' (place (.string s.result) k)
  | inNumeral {c : Char} {p p'} (lexeme k) (h : p.next c = some p') :
    Reads ⟨.numeral p lexeme, k⟩ c ⟨.numeral p' (c :: lexeme), k⟩
  | endNumeral {c : Char} {p lexeme k st'} (hp : p.complete = true) (hc : p.next c = none)
    (h : Reads (place (.numeral lexeme.reverse) k) c st') : Reads ⟨.numeral p lexeme, k⟩ c st'
  | inWord {c : Char} {rest} (v k) (h : rest ≠ []) :
    Reads ⟨.word (c :: rest) v, k⟩ c ⟨.word rest v, k⟩
  | closeWord (c v k) : Reads ⟨.word [c] v, k⟩ c (place v k)

/-! ## from a step to a rule -/

theorem isBetween_place (v : Tree) (k : List Frame) : (place v k).isBetween = true := by
  cases k with
  | nil => rfl
  | cons f k => cases f <;> rfl

theorem Reads.of_begin {c : Char} {k : List Frame} {st : State} (h : begin c k = some st) :
    Reads ⟨.value, k⟩ c st := by
  unfold begin at h
  split at h
  · cases h
    exact .space rfl ‹_›
  split at h
  · cases h
    subst c
    exact .openObject k
  split at h
  · cases h
    subst c
    exact .openArray k
  split at h
  · cases h
    subst c
    exact .openString k
  iterate 3
    split at h
    · cases h
      subst c
      exact .openWord k (by simp [words])
  obtain ⟨p, hp, rfl⟩ := Option.map_eq_some_iff.1 h
  exact .openNumeral k hp

theorem take_space {st : State} {c : Char} (h : st.isBetween = true) (hc : isSpace c = true) :
    st.take c = some st := by
  obtain ⟨m, k⟩ := st
  cases m with
  | name _ _ | string _ | numeral _ _ | word _ _ => exact absurd h Bool.false_ne_true
  | _ => simp [take, begin, hc]

/-! Between tokens a character is white space or begins a token.  Each mode has its own tokens. -/

section
variable {st st' : State} {c : Char} {k : List Frame}

theorem Reads.of_between (hst : st.isBetween = true) (h : st.take c = some st')
    (htoken : isSpace c = false → Reads st c st') : Reads st c st' := by
  cases hc : isSpace c with
  | true =>
    rw [take_space hst hc] at h
    cases h
    exact .space hst hc
  | false => exact htoken hc

theorem Reads.of_firstItem (h : take ⟨.firstItem, k⟩ c = some st') :
    Reads ⟨.firstItem, k⟩ c st' := by
  refine .of_between rfl h fun hc => ?_
  simp only [take, hc, Bool.false_eq_true, if_false] at h
  split at h
  · cases h
    subst c
    exact .noItems k
  · exact .firstItem hc (.of_begin h)

theorem Reads.of_afterItem {before : List Tree} (h : take ⟨.afterItem before, k⟩ c = some st') :
    Reads ⟨.afterItem before, k⟩ c st' := by
  refine .of_between rfl h fun hc => ?_
  simp only [take, hc, Bool.false_eq_true, if_false] at h
  split at h
  · cases h
    subst c
    exact .nextItem before k
  split at h
  · cases h
    subst c
    exact .closeArray before k
  · cases h

theorem Reads.of_root {v : Tree} (h : take ⟨.root v, k⟩ c = some st') :
    Reads ⟨.root v, k⟩ c st' := by
  refine .of_between rfl h fun hc => ?_
  simp only [take, hc, Bool.false_eq_true, if_false] at h
  cases h

theorem Reads.of_firstName (h : take ⟨.firstName, k⟩ c = some st') :
    Reads ⟨.firstName, k⟩ c st' := by
  refine .of_between rfl h fun hc => ?_
  simp only [take, hc, Bool.false_eq_true, if_false] at h
  split at h
  · cases h
    subst c
    exact .noMembers k
  split at h
  · cases h
    subst c
    exact .firstName k
  · cases h

section
variable {before : List (Option (List Char) × Tree)}

theorem Reads.of_nextName (h : take ⟨.nextName before, k⟩ c = some st') :
    Reads ⟨.nextName before, k⟩ c st' := by
  refine .of_between rfl h fun hc => ?_
  simp only [take, hc, Bool.false_eq_true, if_false] at h
  split at h
  · cases h
    subst c
    exact .nextName before k
  · cases h

theorem Reads.of_colon {name : Option (List Char)}
    (h : take ⟨.colon before name, k⟩ c = some st') : Reads ⟨.colon before name, k⟩ c st' := by
  refine .of_between rfl h fun hc => ?_
  simp only [take, hc, Bool.false_eq_true, if_false] at h
  split at h
  · cases h
    subst c
    exact .member before name k
  · cases h

theorem Reads.of_afterMember (h : take ⟨.afterMember before, k⟩ c = some st') :
    Reads ⟨.afterMember before, k⟩ c st' := by
  refine .of_between rfl h fun hc => ?_
  simp only [take, hc, Bool.false_eq_true, if_false] at h
  split at h
  · cases h
    subst c
    exact .nextMember before k
  split at h
  · cases h
    subst c
    exact .closeObject before k
  · cases h

end

/-! Inside of a token a character goes on with it or closes it. -/

theorem Reads.of_name {before : List (Option (List Char) × Tree)} {s : StringPart}
    (h : take ⟨.name before s, k⟩ c = some st') : Reads ⟨.name before s, k⟩ c st' := by
  simp only [take] at h
  split at h
  · rename_i hc
    obtain ⟨rfl, hs⟩ := hc
    cases h
    exact .closeName before k hs
  · obtain ⟨s', hs, rfl⟩ := Option.map_eq_some_iff.1 h
    exact .inName before k ‹_› hs

theorem Reads.of_string {s : StringPart} (h : take ⟨.string s, k⟩ c = some st') :
    Reads ⟨.string s, k⟩ c st' := by
  simp only [take] at h
  split at h
  · rename_i hc
    obtain ⟨rfl, hs⟩ := hc
    cases h
    exact .closeString k hs
  · obtain ⟨s', hs, rfl⟩ := Option.map_eq_some_iff.1 h
    exact .inString k ‹_› hs

theorem Reads.of_word {rest : List Char} {v : Tree} (h : take ⟨.word rest v, k⟩ c = some st') :
    Reads ⟨.word rest v, k⟩ c st' := by
  cases rest with
  | nil => cases h
  | cons d rest =>
    simp only [take] at h
    split at h
    · subst d
      cases h
      split
      · subst rest
        exact .closeWord c v k
      · exact .inWord v k ‹_›
    · cases h

theorem Reads.of_take (h : st.take c = some st') : Reads st c st' := by
  obtain ⟨m, k⟩ := st
  cases m with
  | value => exact .of_begin h
  | firstItem => exact .of_firstItem h
  | afterItem before => exact .of_afterItem h
  | firstName => exact .of_firstName h
  | nextName before => exact .of_nextName h
  | name before s => exact .of_name h
  | colon before name => exact .of_colon h
  | afterMember before => exact .of_afterMember h
  | string s => exact .of_string h
  | numeral p lexeme =>
    obtain ⟨p', hp, rfl⟩ := Option.map_eq_some_iff.1 h
    exact .inNumeral lexeme k hp
  | word rest v => exact .of_word h
  | root v => exact .of_root h

end

theorem Reads.of_step {st st' : State} {c : Char} (h : st.step c = some st') : Reads st c st' := by
  obtain ⟨st₁, hs, ht⟩ := Option.bind_eq_some_iff.1 h
  obtain ⟨m, k⟩ := st
  cases m with
  | numeral p lexeme =>
    simp only [settle] at hs
    split at hs
    · cases hs
      exact .of_take ht
    · rename_i hn
      split at hs
      · cases hs
        exact .endNumeral (And.left ‹_›) (by simpa using hn) (.of_take ht)
      · cases hs
  | _ =>
    cases hs
    exact .of_take ht

/-! ## from a rule to a step -/

theorem step_eq_take {st : State} (h : st.isBetween = true) (c : Char) : st.step c = st.take c := by
  obtain ⟨m, k⟩ := st
  cases m with
  | numeral p lexeme => exact absurd h Bool.false_ne_true
  | _ => rfl

theorem ne_of_isDigit {c d : Char} (hc : c.isDigit = true) (hd : d.isDigit = false) : c ≠ d := by
  intro e
  rw [e, hd] at hc
  exact Bool.false_ne_true hc

/-- after a value no digit follows -/
theorem take_place_digit (v : Tree) (k : List Frame) {c : Char} (hc : c.isDigit = true) :
    (place v k).take c = none := by
  have hne (d : Char) (hd : d.isDigit = false) : c ≠ d := ne_of_isDigit hc hd
  cases k with
  | nil => simp [place, take, isSpace, hne]
  | cons f k => cases f <;> simp [place, take, isSpace, hne]

theorem begin_of_first {c : Char} {p : NumeralPart} (k : List Frame)
    (h : NumeralPart.first c = some p) : begin c k = some ⟨.numeral p [c], k⟩ := by
  have hc : c = '-' ∨ c.isDigit = true := by
    unfold NumeralPart.first at h
    split at h
    · exact .inl ‹_›
    split at h
    · subst c
      exact .inr rfl
    split at h
    · exact .inr ‹_›
    · cases h
  rcases hc with rfl | hc
  · cases h
    rfl
  · have hne (d : Char) (hd : d.isDigit = false) : c ≠ d := ne_of_isDigit hc hd
    simp [begin, isSpace, hne, h]

theorem Reads.step_eq {st st' : State} {c : Char} (h : Reads st c st') : st.step c = some st' := by
  induction h with
  | space h hc => rw [step_eq_take h, take_space h hc]
  | openWord k h =>
    simp only [words, List.mem_cons, Prod.mk.injEq, List.cons.injEq, List.not_mem_nil,
      or_false] at h
    rcases h with ⟨⟨rfl, rfl⟩, rfl⟩ | ⟨⟨rfl, rfl⟩, rfl⟩ | ⟨⟨rfl, rfl⟩, rfl⟩ <;> rfl
  | openNumeral k h => exact begin_of_first k h
  | @firstItem c k st' hc h ih =>
    have hne : c ≠ ']' := by
      rintro rfl
      cases ih
    rw [step_eq_take rfl]
    simp only [take, hc, hne, Bool.false_eq_true, if_false]
    exact ih
  | inName before k hc h =>
    show ite _ _ _ = _
    rw [if_neg hc, h]
    rfl
  | closeName before k h => exact if_pos ⟨rfl, h⟩
  | inString k hc h =>
    show ite _ _ _ = _
    rw [if_neg hc, h]
    rfl
  | closeString k h => exact if_pos ⟨rfl, h⟩
  | inNumeral lexeme k h => simp [step, settle, take, h]
  | @endNumeral c p lexeme k st' hp hc h ih =>
    rw [step_eq_take (isBetween_place _ k)] at ih
    have hd : ¬(p = .zero ∧ c.isDigit = true) := by
      rintro ⟨-, hd⟩
      rw [take_place_digit _ k hd] at ih
      cases ih
    simp only [step, settle, hc, Option.isSome_none, Bool.false_eq_true, if_false, hp, hd,
      not_false_eq_true, and_self, if_true, Option.bind_some]
    exact ih
  | inWord v k h => simp [step, settle, take, h]
  | closeWord c v k => simp [step, settle, take]
  | _ => rfl

theorem step_eq_some_iff {st st' : State} {c : Char} : st.step c = some st' ↔ Reads st c st' :=
  ⟨.of_step, Reads.step_eq⟩

/-! ## whole texts -/

theorem run_cons_eq_some_iff {st st' : State} {c : Char} {s : List Char} :
    st.run (c :: s) = some st' ↔ ∃ st₁, Reads st c st₁ ∧ st₁.run s = some st' := by
  rw [run_cons, Option.bind_eq_some_iff]
  exact exists_congr fun st₁ => and_congr_left fun _ => step_eq_some_iff

theorem run_append_eq_some_iff {st st' : State} {s t : List Char} :
    st.run (s ++ t) = some st' ↔ ∃ st₁, st.run s = some st₁ ∧ st₁.run t = some st' := by
  rw [run_append, Option.bind_eq_some_iff]

theorem run_preserves {motive : State → Prop}
    (hreads : ∀ {st st' : State} {c : Char}, motive st → Reads st c st' → motive st')
    {st st' : State} {s : List Char} (hst : motive st) (h : st.run s = some st') : motive st' := by
  induction s generalizing st with
  | nil =>
    cases h
    exact hst
  | cons c s ih =>
    obtain ⟨st₁, h₁, h⟩ := run_cons_eq_some_iff.1 h
    exact ih (hreads hst h₁) h

end State

end PromptDispatch.Json

import PromptDispatch.Proofs.Json.Reads
import PromptDispatch.Text.Blank

/-!
# The places of a JSON text between two tokens

White space between tokens changes nothing, and only the first character of a token can follow it.
A line feed stands between tokens in every text that is read to its end, although the grammar takes
one among the digits of `\u` and refuses it only at the fourth.

* `State.startsToken_of_reads`, `State.run_of_blanks`   what can follow a state between tokens;
* `State.Sound`                    what holds of every state that a text leads to;
* `State.Spoilt`                   a string that no text can end any more;
* `State.isBetween_of_newline`     the state after a line feed.
-/

namespace PromptDispatch.Json

/-! ## the characters that start a token -/

def startsToken (c : Char) : Bool :=
  ['{', '}', '[', ']', ',', ':', '"', 'n', 't', 'f', '-'].contains c || c.isDigit

theorem isBlank_of_isSpace {c : Char} (h : isSpace c = true) : Text.isBlank c = true := by
  simp only [isSpace, Bool.or_eq_true, decide_eq_true_eq] at h
  rcases h with ((h | h) | h) | h <;> subst h <;> rfl

theorem not_isSpace_of_not_isBlank {c : Char} (h : Text.isBlank c = false) : isSpace c = false := by
  cases hc : isSpace c with
  | false => rfl
  | true => exact absurd (h.symm.trans (isBlank_of_isSpace hc)) Bool.false_ne_true

theorem isBlank_of_isDigit {c : Char} (h : c.isDigit = true) : Text.isBlank c = false := by
  have hc : 48 ≤ c.toNat ∧ c.toNat ≤ 57 := by
    simpa [Char.isDigit, UInt32.le_iff_toNat_le] using h
  have hb : ∀ n, n = c.toNat → Text.isBlank c = false := by
    intro n hn
    simp only [Text.isBlank, ← hn, Bool.or_eq_false_iff, Bool.and_eq_false_iff,
      decide_eq_false_iff_not, beq_eq_false_iff_ne]
    omega
  exact hb _ rfl

theorem isBlank_of_startsToken {c : Char} (h : startsToken c = true) : Text.isBlank c = false := by
  rw [startsToken, Bool.or_eq_true] at h
  rcases h with h | h
  · simp only [List.contains_iff_mem, List.mem_cons, List.not_mem_nil, or_false] at h
    rcases h with h | h | h | h | h | h | h | h | h | h | h <;> subst h <;> rfl
  · exact isBlank_of_isDigit h

theorem NumeralPart.startsToken_of_first {c : Char} {p : NumeralPart}
    (h : NumeralPart.first c = some p) : startsToken c = true := by
  unfold NumeralPart.first at h
  split at h
  · subst c
    rfl
  split at h
  · subst c
    rfl
  split at h
  · rename_i hc
    rw [startsToken, hc, Bool.or_true]
  · cases h

namespace State

theorem startsToken_of_reads {st st' : State} {c : Char} (h : Reads st c st')
    (hb : st.isBetween = true) (hc : isSpace c = false) : startsToken c = true := by
  induction h with
  | space _ hs => exact absurd (hc.symm.trans hs) Bool.false_ne_true
  | openWord k h =>
    simp only [words, List.mem_cons, Prod.mk.injEq, List.cons.injEq, List.not_mem_nil,
      or_false] at h
    rcases h with ⟨⟨rfl, -⟩, -⟩ | ⟨⟨rfl, -⟩, -⟩ | ⟨⟨rfl, -⟩, -⟩ <;> rfl
  | openNumeral k h => exact NumeralPart.startsToken_of_first h
  | firstItem hs h ih => exact ih rfl hc
  | inName _ _ _ _ | closeName _ _ _ | inString _ _ _ | closeString _ _ | inNumeral _ _ _
  | endNumeral _ _ _ | inWord _ _ _ | closeWord _ _ _ => exact absurd hb Bool.false_ne_true
  | _ => rfl

/-! ## white space -/

theorem step_space {st : State} {c : Char} (h : st.isBetween = true) (hc : isSpace c = true) :
    st.step c = some st :=
  step_eq_some_iff.2 (.space h hc)

theorem run_of_blanks {st st' : State} (h : st.isBetween = true) {b r : List Char}
    (hb : ∀ c ∈ b, Text.isBlank c = true) (hr : st.run (b ++ r) = some st') :
    (∀ c ∈ b, isSpace c = true) ∧ st.run r = some st' := by
  induction b with
  | nil => exact ⟨fun c hc => absurd hc List.not_mem_nil, hr⟩
  | cons c b ih =>
    obtain ⟨st₁, h₁, hr⟩ := run_cons_eq_some_iff.1 hr
    have hc : isSpace c = true := by
      cases hc : isSpace c with
      | true => rfl
      | false =>
        have ht := isBlank_of_startsToken (startsToken_of_reads h₁ h hc)
        rw [hb c List.mem_cons_self] at ht
        exact ht.symm
    obtain rfl := Option.some.inj ((step_space h hc).symm.trans h₁.step_eq)
    obtain ⟨hs, hr⟩ := ih (fun d hd => hb d (List.mem_cons_of_mem _ hd)) hr
    exact ⟨fun d hd => (List.mem_cons.1 hd).elim (fun e => e ▸ hc) (hs d), hr⟩

/-- after blanks between tokens comes the first character of a token -/
theorem startsToken_of_run_blanks {st st' : State} (h : st.isBetween = true) {b r : List Char}
    {c : Char} (hb : ∀ d ∈ b, Text.isBlank d = true) (hc : Text.isBlank c = false)
    (hr : st.run (b ++ c :: r) = some st') : startsToken c = true := by
  obtain ⟨-, hr⟩ := run_of_blanks h hb hr
  obtain ⟨st₁, h₁, -⟩ := run_cons_eq_some_iff.1 hr
  exact startsToken_of_reads h₁ h (not_isSpace_of_not_isBlank hc)

/-! ## what holds of every state that a text leads to -/

/-- a word has no white space in it and writes no container, and nothing is around the root -/
def Sound (st : State) : Prop :=
  match st.mode with
  | .word rest v => (∀ c ∈ rest, isSpace c = false) ∧ v.isContainer = false
  | .root _ => st.frames = []
  | _ => True

theorem sound_of_mem_words {w : List Char} {v : Tree} (h : (w, v) ∈ words) :
    (∀ c ∈ w, isSpace c = false) ∧ v.isContainer = false := by
  have hwords : (words.all fun e => e.1.all (fun c => !isSpace c) && !e.2.isContainer) = true := rfl
  have hw := List.all_eq_true.1 hwords _ h
  simp only [Bool.and_eq_true, List.all_eq_true, Bool.not_eq_true'] at hw
  exact hw

theorem sound_start : start.Sound := trivial

theorem sound_place (v : Tree) (k : List Frame) : (place v k).Sound := by
  cases k with
  | nil => exact rfl
  | cons f k => cases f <;> exact trivial

theorem Sound.reads {st st' : State} {c : Char} (hs : st.Sound) (h : Reads st c st') :
    st'.Sound := by
  induction h with
  | space _ _ => exact hs
  | openWord k h =>
    obtain ⟨hw, hv⟩ := sound_of_mem_words h
    exact ⟨fun c hc => hw c (List.mem_cons_of_mem _ hc), hv⟩
  | firstItem _ _ ih => exact ih trivial
  | endNumeral _ _ _ ih => exact ih (sound_place _ _)
  | inWord v k _ => exact ⟨fun c hc => hs.1 c (List.mem_cons_of_mem _ hc), hs.2⟩
  | noItems | closeArray | noMembers | closeObject | closeString | closeWord =>
    exact sound_place _ _
  | _ => exact trivial

theorem Sound.run {st st' : State} {s : List Char} (hs : st.Sound) (h : st.run s = some st') :
    st'.Sound :=
  run_preserves Sound.reads hs h

end State

/-! ## strings that no text can end -/

theorem foldlM_of_mem {f : Char → Option Nat} {g : Nat → Nat → Nat} {l : List Char} {c : Char}
    (hc : c ∈ l) (h : f c = none) (n : Nat) :
    l.foldlM (fun n c => (f c).map (g n)) n = none := by
  induction l generalizing n with
  | nil => exact absurd hc List.not_mem_nil
  | cons d l ih =>
    rw [List.foldlM_cons]
    rcases List.mem_cons.1 hc with rfl | hc
    · rw [h]
      rfl
    · cases f d with
      | none => rfl
      | some m => exact ih hc _

/-- a character among the digits of `\u` that is no digit -/
def StringPart.Spoilt (s : StringPart) : Prop :=
  match s.part with
  | .hex seen | .halfHex _ seen => ∃ c ∈ seen, hexValue? c = none
  | _ => False

namespace StringPart

theorem hexNumber?_of_mem {seen : List Char} {c : Char} (hc : c ∈ seen) (h : hexValue? c = none) :
    hexNumber? seen = none :=
  foldlM_of_mem (g := fun n d => n * 16 + d) (List.mem_reverse.2 hc) h 0

theorem Spoilt.step {s s' : StringPart} {c : Char} (hs : s.Spoilt) (h : s.step c = some s') :
    s'.Spoilt := by
  obtain ⟨text, sound, part⟩ := s
  cases part with
  | hex seen =>
    obtain ⟨d, hd, hv⟩ := hs
    simp only [StringPart.step, hexNumber?_of_mem (List.mem_cons_of_mem c hd) hv] at h
    split at h
    · cases h
      exact ⟨d, List.mem_cons_of_mem c hd, hv⟩
    · cases h
  | halfHex high seen =>
    obtain ⟨d, hd, hv⟩ := hs
    simp only [StringPart.step, hexNumber?_of_mem (List.mem_cons_of_mem c hd) hv] at h
    split at h
    · cases h
      exact ⟨d, List.mem_cons_of_mem c hd, hv⟩
    · cases h
  | _ => exact False.elim hs

/-- a string goes on with a line feed only where four digits are read -/
theorem spoilt_of_newline {s s' : StringPart} (h : s.step '\n' = some s') : s'.Spoilt := by
  -- a raw control character is refused everywhere else
  obtain ⟨text, sound, part⟩ := s
  have hn (seen : List Char) : hexNumber? ('\n' :: seen) = none :=
    hexNumber?_of_mem List.mem_cons_self rfl
  cases part with
  | hex seen =>
    simp only [StringPart.step, hn] at h
    split at h
    · cases h
      exact ⟨'\n', List.mem_cons_self, rfl⟩
    · cases h
  | halfHex high seen =>
    simp only [StringPart.step, hn] at h
    split at h
    · cases h
      exact ⟨'\n', List.mem_cons_self, rfl⟩
    · cases h
  | _ => cases h

theorem Spoilt.closes {s : StringPart} (h : s.Spoilt) : s.closes = false := by
  obtain ⟨text, sound, part⟩ := s
  cases part with
  | hex _ | halfHex _ _ => rfl
  | _ => exact False.elim h

end StringPart

namespace State

def Spoilt (st : State) : Prop :=
  match st.mode with
  | .name _ s | .string s => s.Spoilt
  | _ => False

theorem Spoilt.reads {st st' : State} {c : Char} (hs : st.Spoilt) (h : Reads st c st') :
    st'.Spoilt := by
  cases h with
  | space _ _ => exact hs
  | inName _ _ _ h => exact StringPart.Spoilt.step hs h
  | inString _ _ h => exact StringPart.Spoilt.step hs h
  | closeName _ _ h => exact absurd (hs.closes.symm.trans h) Bool.false_ne_true
  | closeString _ h => exact absurd (hs.closes.symm.trans h) Bool.false_ne_true
  | _ => exact False.elim hs

theorem Spoilt.run {st st' : State} {s : List Char} (hs : st.Spoilt) (h : st.run s = some st') :
    st'.Spoilt :=
  run_preserves Spoilt.reads hs h

/-! ## line feeds -/

theorem isBetween_of_newline {st st' : State} (hs : st.Sound) (h : Reads st '\n' st') :
    st'.isBetween = true ∨ st'.Spoilt := by
  cases h with
  | space hb _ => exact .inl hb
  | inName _ _ _ h => exact .inr (StringPart.spoilt_of_newline h)
  | inString _ _ h => exact .inr (StringPart.spoilt_of_newline h)
  | @endNumeral _ p lexeme k _ _ _ h =>
    have hb := isBetween_place (.numeral lexeme.reverse) k
    have e : place (.numeral lexeme.reverse) k = st' :=
      Option.some.inj ((step_space hb rfl).symm.trans h.step_eq)
    exact .inl (e ▸ hb)
  | @inNumeral _ p _ _ _ h => cases p <;> cases h
  | openWord _ h => simp [words] at h
  | openNumeral _ h => cases h
  | firstItem hc _ => cases hc
  | inWord _ _ _ | closeWord _ _ _ => exact absurd (hs.1 '\n' List.mem_cons_self) (by decide)

/-- in a text that can still be ended, a line feed stands between tokens -/
theorem exists_between_of_newline {x r : List Char} {st' : State}
    (h : start.run (x ++ '\n' :: r) = some st') (hst : ¬st'.Spoilt) :
    ∃ st, start.run (x ++ ['\n']) = some st ∧ st.isBetween = true ∧ st.run r = some st' := by
  obtain ⟨st₁, h₁, h⟩ := run_append_eq_some_iff.1 h
  obtain ⟨st, h₂, h⟩ := run_cons_eq_some_iff.1 h
  refine ⟨st, ?_, ?_, h⟩
  · exact run_append_eq_some_iff.2 ⟨st₁, h₁, run_cons_eq_some_iff.2 ⟨st, h₂, rfl⟩⟩
  · rcases isBetween_of_newline (sound_start.run h₁) h₂ with hb | hb
    · exact hb
    · exact absurd (hb.run h) hst

end State

end PromptDispatch.Json

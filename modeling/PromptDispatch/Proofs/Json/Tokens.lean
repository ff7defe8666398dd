import Mathlib.Data.List.TakeWhile
import PromptDispatch.Json.Numeral
import PromptDispatch.Json.Printer
import PromptDispatch.Proofs.Json.Between

/-!
# Tokens as they are written

A token that is written is read back as it was: an integer from its digits, a text from its escapes.
A numeral ends only where the next character comes, so that what is read after it is told with that
character; every other token ends by itself.

* `Numeral.number?_text`   the number of an integer's text;
* `StringPart.run_escapeText`   a string over the escapes of a text;
* `State.run_text`, `State.run_quote`, `State.run_word`   tokens in the place of a value.
-/

namespace PromptDispatch

/-! ## digits -/

namespace Numeral

theorem ofDigits_toDigits (n : Nat) : ofDigits (Nat.toDigits 10 n) = n := by
  have h := Nat.ofDigitChars_ten_toDigits (n := n)
  rw [Nat.ofDigitChars_eq_foldl] at h
  simpa only [ofDigits, digitValue, Nat.mul_comm] using h

theorem head?_toDigits (n : Nat) (h : n ≠ 0) : (Nat.toDigits 10 n).head? ≠ some '0' := by
  induction n using Nat.strongRecOn with
  | ind n ih =>
    rw [Nat.toDigits_eq_if (by decide)]
    split
    · rw [List.head?_cons]
      exact fun hc => h (Nat.digitChar_eq_zero.1 (Option.some.inj hc))
    · have hdiv : n / 10 ≠ 0 := by omega
      obtain ⟨c, r, hcr⟩ := List.exists_cons_of_ne_nil (Nat.toDigits_ne_nil (n := n / 10) (b := 10))
      have hhead := ih (n / 10) (by omega) hdiv
      rw [hcr] at hhead ⊢
      exact hhead

section
variable {s : List Char}

theorem takeWhile_digits (h : ∀ c ∈ s, c.isDigit = true) : s.takeWhile Char.isDigit = s :=
  List.takeWhile_eq_self_iff.2 h

theorem dropWhile_digits (h : ∀ c ∈ s, c.isDigit = true) : s.dropWhile Char.isDigit = [] :=
  List.dropWhile_eq_nil_iff.2 h

theorem ofText_digits (h : ∀ c ∈ s, c.isDigit = true) :
    Parts.ofText s =
      { negative := false, whole := s, places := [], exponent := none, plain := true } := by
  have hhead : s.head? ≠ some '-' := by
    intro hc
    have hminus := h '-' (List.mem_of_head? hc)
    cases hminus
  simp [Parts.ofText, hhead, takeWhile_digits h, dropWhile_digits h]

theorem ofText_minus (h : ∀ c ∈ s, c.isDigit = true) :
    Parts.ofText ('-' :: s) =
      { negative := true, whole := s, places := [], exponent := none, plain := true } := by
  simp [Parts.ofText, takeWhile_digits h, dropWhile_digits h]

end

theorem isDigit_of_mem_toDigits {n : Nat} : ∀ c ∈ Nat.toDigits 10 n, c.isDigit = true :=
  fun _ => Nat.isDigit_of_mem_toDigits (by decide) (by decide)

theorem number?_text (w : Whole) : number? w.text = some (.int w) := by
  have hw := w.ofInt?_val
  rw [Whole.text]
  split
  · have hne : (w.val.natAbs == 0) = false := beq_eq_false_iff_ne.2 (by omega)
    have habs : -(w.val.natAbs : Int) = w.val := by omega
    simp only [number?, List.singleton_append, ofText_minus isDigit_of_mem_toDigits, Parts.whole?,
      ofDigits_toDigits, hne, habs, hw, Bool.and_false, Bool.false_eq_true, if_false, if_true]
  · have habs : (w.val.natAbs : Int) = w.val := by omega
    simp only [number?, List.nil_append, ofText_digits isDigit_of_mem_toDigits, Parts.whole?,
      ofDigits_toDigits, habs, hw, Bool.false_and, Bool.false_eq_true, if_false, if_true]

end Numeral

namespace Json

/-! ## strings -/

namespace StringPart

def run (s : StringPart) : List Char → Option StringPart
  | [] => some s
  | c :: r => if c = '"' ∧ s.closes = true then none else (s.step c).bind (·.run r)

theorem run_append (s : StringPart) (a b : List Char) :
    s.run (a ++ b) = (s.run a).bind (·.run b) := by
  induction a generalizing s with
  | nil => rfl
  | cons c a ih =>
    rw [List.cons_append, run, run]
    split
    · rfl
    · cases s.step c with
      | none => rfl
      | some s' => exact ih s'

variable {text : List Char} {sound : Bool}

theorem run_control {n : Nat} (h : n < 0x20) :
    (⟨text, sound, .plain⟩ : StringPart).run
      ['\\', 'u', '0', '0', hexDigit (n / 16), hexDigit (n % 16)] =
        some ⟨Char.ofNat n :: text, sound, .plain⟩ := by
  have hdigits : ∀ n < 0x20, width [hexDigit (n / 16), '0', '0'] = 3 ∧
      width [hexDigit (n % 16), hexDigit (n / 16), '0', '0'] = 4 ∧
      hexNumber? [hexDigit (n % 16), hexDigit (n / 16), '0', '0'] = some n := by
    decide
  obtain ⟨hthree, hfour, hnumber⟩ := hdigits n h
  have hlow : ¬(0xD800 ≤ n ∧ n < 0xDC00) := by omega
  have hhigh : ¬(0xDC00 ≤ n ∧ n < 0xE000) := by omega
  have hhex : (⟨text, sound, .hex ['0', '0']⟩ : StringPart).run
      [hexDigit (n / 16), hexDigit (n % 16)] =
        some ⟨Char.ofNat n :: text, sound, .plain⟩ := by
    simp [run, step, closes, hthree, hfour, hnumber, unit, hlow, hhigh, push]
  exact hhex

/-- a character that is written inside of quotes is read back -/
theorem run_escapeChar (c : Char) :
    (⟨text, sound, .plain⟩ : StringPart).run (escapeChar c) =
      some ⟨c :: text, sound, .plain⟩ := by
  unfold escapeChar
  -- each character with an escape of its own, then those without, and then all others
  iterate 7
    split
    · subst c
      rfl
  split
  · rw [run_control ‹_›, Char.ofNat_toNat]
  · simp [run, step, plain, push, *]

/-- a text that is written inside of quotes is read back -/
theorem run_escapeText (s : List Char) :
    (⟨text, sound, .plain⟩ : StringPart).run (escapeText s) =
      some ⟨s.reverse ++ text, sound, .plain⟩ := by
  induction s generalizing text with
  | nil => rfl
  | cons c s ih =>
    rw [escapeText_cons, run_append, run_escapeChar, Option.bind_some, ih, List.reverse_cons,
      List.append_assoc, List.singleton_append]

/-- a string that has been read up to the end of a text -/
def ofText (t : List Char) : StringPart := { text := t.reverse }

theorem closes_ofText (t : List Char) : (ofText t).closes = true := rfl

theorem result_ofText (t : List Char) : (ofText t).result = some t := by
  simp [result, ofText]

theorem run_start (t : List Char) : ({} : StringPart).run (escapeText t) = some (ofText t) := by
  rw [run_escapeText, List.append_nil]
  rfl

end StringPart

/-! ## in the place of a value -/

namespace State

theorem run_spaces {st : State} (h : st.isBetween = true) {b : List Char}
    (hb : ∀ c ∈ b, isSpace c = true) (r : List Char) : st.run (b ++ r) = st.run r := by
  induction b with
  | nil => rfl
  | cons c b ih =>
    rw [List.cons_append, run_cons, step_space h (hb c List.mem_cons_self), Option.bind_some]
    exact ih fun d hd => hb d (List.mem_cons_of_mem c hd)

theorem run_word {w : List Char} {v : Tree} (h : (w, v) ∈ words) (k : List Frame) :
    (⟨.value, k⟩ : State).run w = some (place v k) := by
  simp only [words, List.mem_cons, Prod.mk.injEq, List.not_mem_nil, or_false] at h
  rcases h with ⟨rfl, rfl⟩ | ⟨rfl, rfl⟩ | ⟨rfl, rfl⟩ <;> rfl

/-! ## quotes -/

theorem run_inside (f : StringPart → State)
    (hf : ∀ {s s' c}, ¬(c = '"' ∧ s.closes = true) → s.step c = some s' → Reads (f s) c (f s'))
    {s s' : StringPart} {t : List Char} (h : s.run t = some s') : (f s).run t = some (f s') := by
  induction t generalizing s with
  | nil =>
    cases h
    rfl
  | cons c t ih =>
    rw [StringPart.run] at h
    split at h
    · cases h
    · rename_i hc
      obtain ⟨s₁, hs₁, h⟩ := Option.bind_eq_some_iff.1 h
      rw [run_cons, (hf hc hs₁).step_eq]
      exact ih h

theorem run_quote (t : List Char) (k : List Frame) :
    (⟨.value, k⟩ : State).run (quote t) = some (place (.string (some t)) k) := by
  have hopen : (⟨.value, k⟩ : State).step '"' = some ⟨.string {}, k⟩ := rfl
  have hinside := run_inside (⟨.string ·, k⟩) (Reads.inString k) (StringPart.run_start t)
  have hclose := (Reads.closeString k (StringPart.closes_ofText t)).step_eq
  rw [quote, run_cons, hopen, Option.bind_some, run_append, hinside, Option.bind_some, run_cons,
    hclose, StringPart.result_ofText]
  rfl

theorem run_quote_name {st : State} {before : List (Option (List Char) × Tree)} {k : List Frame}
    (h : st.step '"' = some ⟨.name before {}, k⟩) (t : List Char) :
    st.run (quote t) = some ⟨.colon before (some t), k⟩ := by
  have hinside :=
    run_inside (⟨.name before ·, k⟩) (Reads.inName before k) (StringPart.run_start t)
  have hclose := (Reads.closeName before k (StringPart.closes_ofText t)).step_eq
  rw [quote, run_cons, h, Option.bind_some, run_append, hinside, Option.bind_some, run_cons,
    hclose, StringPart.result_ofText]
  rfl

/-! ## integers -/

theorem run_digits {s : List Char} (h : ∀ c ∈ s, c.isDigit = true) (lexeme : List Char)
    (k : List Frame) :
    (⟨.numeral .whole lexeme, k⟩ : State).run s =
      some ⟨.numeral .whole (s.reverse ++ lexeme), k⟩ := by
  induction s generalizing lexeme with
  | nil => rfl
  | cons c s ih =>
    have hnext : NumeralPart.whole.next c = some .whole := by
      rw [NumeralPart.next, if_pos (h c List.mem_cons_self)]
    rw [run_cons, (Reads.inNumeral lexeme k hnext).step_eq, Option.bind_some,
      ih fun d hd => h d (List.mem_cons_of_mem c hd), List.reverse_cons, List.append_assoc,
      List.singleton_append]

theorem run_text (w : Whole) (k : List Frame) :
    ∃ p, (p = .zero ∨ p = .whole) ∧
      (⟨.value, k⟩ : State).run w.text = some ⟨.numeral p w.text.reverse, k⟩ := by
  by_cases hzero : w.val = 0
  · refine ⟨.zero, .inl rfl, ?_⟩
    rw [Whole.text, hzero]
    rfl
  · refine ⟨.whole, .inr rfl, ?_⟩
    -- after the sign, if there is one, comes a digit that is not `0`
    obtain ⟨c, r, hcr⟩ :=
      List.exists_cons_of_ne_nil (Nat.toDigits_ne_nil (n := w.val.natAbs) (b := 10))
    have hdigits : ∀ d ∈ c :: r, d.isDigit = true := by
      rw [← hcr]
      exact Numeral.isDigit_of_mem_toDigits
    have hc : c ≠ '0' := by
      have hhead := Numeral.head?_toDigits w.val.natAbs (Int.natAbs_ne_zero.2 hzero)
      rw [hcr] at hhead
      exact fun h => hhead (congrArg some h)
    have hdigit := hdigits c List.mem_cons_self
    have hrest := fun d hd => hdigits d (List.mem_cons_of_mem c hd)
    rw [Whole.text, hcr]
    split
    · have hminus : (⟨.value, k⟩ : State).step '-' = some ⟨.numeral .sign ['-'], k⟩ := rfl
      have hfirst : NumeralPart.sign.next c = some .whole := by
        rw [NumeralPart.next, if_neg hc, if_pos hdigit]
      rw [List.singleton_append, run_cons, hminus, Option.bind_some, run_cons,
        (Reads.inNumeral ['-'] k hfirst).step_eq, Option.bind_some, run_digits hrest]
      simp
    · have hfirst : NumeralPart.first c = some .whole := by
        rw [NumeralPart.first, if_neg (State.ne_of_isDigit hdigit rfl), if_neg hc, if_pos hdigit]
      rw [List.nil_append, run_cons, (Reads.openNumeral k hfirst).step_eq, Option.bind_some,
        run_digits hrest]
      simp

/-- a numeral of digits ends before a character that goes on with no numeral -/
theorem step_numeral {p : NumeralPart} (hp : p = .zero ∨ p = .whole) {c : Char}
    (hc : c = ',' ∨ c = '\n') (lexeme : List Char) (k : List Frame) :
    (⟨.numeral p lexeme, k⟩ : State).step c = (place (.numeral lexeme.reverse) k).step c := by
  rw [step_eq_take (isBetween_place _ k)]
  rcases hp with rfl | rfl <;> rcases hc with rfl | rfl <;> rfl

end State

end Json

end PromptDispatch

import PromptDispatch.Config.Writer
import PromptDispatch.Proofs.Decimal.Shortest
import PromptDispatch.Yaml.Scalar

/-!
# Numbers as plain scalars

The text of a number begins as no word of YAML does, and a number that is no integer has a character
that no integer has.  So a plain scalar with the text of a number is that number again.

* `integer?_text`, `plainValue?_whole`   integers;
* `writes_digitsText`                    the laid out digits of a number are read as their decimal;
* `plainValue?_float`                    binary64 numbers.
-/

namespace PromptDispatch.Yaml.Scalar

open Numeral (ofDigits)

variable {s t : List Char} {c : Char}

/-! ## digits -/

theorem digitValue?_of_isDigit (h : c.isDigit = true) :
    digitValue? 10 c = some (Numeral.digitValue c) := by
  have hc : '0' ≤ c ∧ c ≤ '9' := by
    simpa [Char.isDigit, Char.le_def] using h
  have hlt : Numeral.digitValue c < 10 := by
    have : c.toNat ≤ '9'.toNat := hc.2
    rw [Numeral.digitValue]
    simp only [Char.reduceToNat] at this ⊢
    omega
  simp only [digitValue?, if_pos hc]
  exact Option.filter_some_pos (decide_eq_true hlt)

theorem natural?_of_ne_nil {base : Nat} (hs : s ≠ []) :
    natural? base s = s.foldlM (fun n c => (digitValue? base c).map (n * base + ·)) 0 := by
  cases s with
  | nil => exact absurd rfl hs
  | cons c r => rfl

theorem natural?_digits (hs : s ≠ []) (h : ∀ c ∈ s, c.isDigit = true) :
    natural? 10 s = some (ofDigits s) := by
  have hfold (s : List Char) (h : ∀ c ∈ s, c.isDigit = true) (n : Nat) :
      s.foldlM (fun n c => (digitValue? 10 c).map (n * 10 + ·)) n =
        some (s.foldl (fun n c => n * 10 + Numeral.digitValue c) n) := by
    induction s generalizing n with
    | nil => rfl
    | cons c s ih =>
      obtain ⟨hc, hs⟩ := List.forall_mem_cons.1 h
      rw [List.foldlM_cons, digitValue?_of_isDigit hc]
      exact ih hs _
  rw [natural?_of_ne_nil hs, hfold s h 0]
  rfl

theorem natural?_eq_none (hc : c ∈ s) (h : digitValue? 10 c = none) : natural? 10 s = none := by
  rw [natural?_of_ne_nil (List.ne_nil_of_mem hc)]
  exact Json.foldlM_of_mem (g := fun n d => n * 10 + d) hc h 0

/-! ## what a text begins with -/

def startsNumber : List Char → Bool
  | '-' :: c :: _ => c.isDigit
  | c :: _ => c.isDigit
  | [] => false

theorem not_mem_of_startsNumber (h : startsNumber s = true) (words : List String)
    (hw : (words.all fun w => !startsNumber w.toList) = true) : String.ofList s ∉ words := by
  intro hmem
  have hword := List.all_eq_true.1 hw _ hmem
  rw [String.toList_ofList, h] at hword
  cases hword

theorem bool?_eq_none (h : startsNumber s = true) : bool? (String.ofList s) = none := by
  rw [bool?, if_neg (not_mem_of_startsNumber h _ (by decide)),
    if_neg (not_mem_of_startsNumber h _ (by decide))]

theorem isNull_eq_false (h : startsNumber s = true) : isNull (String.ofList s) = false :=
  decide_eq_false (not_mem_of_startsNumber h _ (by decide))

theorem ofList_ne_empty (h : startsNumber s = true) : String.ofList s ≠ "" := fun e =>
  not_mem_of_startsNumber h [""] (by decide) (List.mem_singleton.2 e)

theorem plainValue?_of_integer {n : Int} (h : startsNumber s = true) (hn : integer? s = some n) :
    plainValue? (String.ofList s) = intValue? n := by
  rw [plainValue?, isNull_eq_false h, bool?_eq_none h, String.toList_ofList, hn]
  simp [ofList_ne_empty h]

/-- a number that is no integer -/
theorem plainValue?_of_float {x : Binary64} (h : startsNumber s = true) (hn : integer? s = none)
    (hzero : hasLeadingZero s = false) (hx : float? s = some x) :
    plainValue? (String.ofList s) = some (.num (.float x)) := by
  rw [plainValue?, isNull_eq_false h, bool?_eq_none h, String.toList_ofList, hn, hzero, hx]
  simp [ofList_ne_empty h]

/-! ## what integers are read from -/

def isNumberChar (c : Char) : Bool := c.isDigit || c = '-' || c = '.' || c = 'e'

structure Unsigned (s : List Char) : Prop where
  chars : ∀ c ∈ s, isNumberChar c = true
  head : ∃ c r, s = c :: r ∧ c.isDigit = true

def sign (negative : Bool) : List Char := if negative then ['-'] else []

theorem Unsigned.startsNumber (h : Unsigned s) (negative : Bool) :
    startsNumber (sign negative ++ s) = true := by
  obtain ⟨c, r, rfl, hc⟩ := h.head
  cases negative with
  | true => exact hc
  | false =>
    have hne : c ≠ '-' := Json.State.ne_of_isDigit hc rfl
    simp [sign, Scalar.startsNumber, hne, hc]

theorem marked?_eq_none (h : ∀ c ∈ s, isNumberChar c = true) : marked? s = none := by
  unfold marked?
  split
  · exact absurd (h 'x' (by simp)) (by decide)
  · exact absurd (h 'o' (by simp)) (by decide)
  · exact absurd (h 'b' (by simp)) (by decide)
  · rfl

/-- an integer part of more than one digit that begins with a zero, and nothing else -/
def isPadded (s : List Char) : Bool :=
  1 < s.length && s.head? = some '0' && s.all Char.isDigit

theorem Unsigned.hasLeadingZero_eq (h : Unsigned s) (negative : Bool) :
    hasLeadingZero (sign negative ++ s) = isPadded s := by
  cases negative with
  | true => rfl
  | false =>
    obtain ⟨c, r, rfl, hc⟩ := h.head
    have hplus : c ≠ '+' := Json.State.ne_of_isDigit hc rfl
    have hminus : c ≠ '-' := Json.State.ne_of_isDigit hc rfl
    simp [hasLeadingZero, sign, isPadded, hplus, hminus]

theorem isPadded_eq_false (hc : c ∈ s) (hnone : digitValue? 10 c = none) : isPadded s = false := by
  have hdigit : c.isDigit = false := by
    cases h : c.isDigit with
    | false => rfl
    | true => cases hnone.symm.trans (digitValue?_of_isDigit h)
  have hall : s.all Char.isDigit = false := List.all_eq_false.2 ⟨c, hc, by rw [hdigit]; decide⟩
  rw [isPadded, hall, Bool.and_false]

theorem Unsigned.unsigned?_eq (h : Unsigned s) (hpad : isPadded s = false) :
    unsigned? s = natural? 10 s := by
  have hzero : hasLeadingZero s = false := (h.hasLeadingZero_eq false).trans hpad
  obtain ⟨c, r, rfl, hc⟩ := h.head
  have hplus : c ≠ '+' := Json.State.ne_of_isDigit hc rfl
  simp [unsigned?, hplus, marked?_eq_none h.chars, hzero]

theorem Unsigned.negative?_eq (h : Unsigned s) : negative? s = none := by
  obtain ⟨c, r, rfl, hc⟩ := h.head
  have hminus : c ≠ '-' := Json.State.ne_of_isDigit hc rfl
  simp [negative?, hminus]

theorem Unsigned.unsigned?_minus (h : Unsigned s) : unsigned? ('-' :: s) = none := by
  have hchars : ∀ c ∈ '-' :: s, isNumberChar c = true := List.forall_mem_cons.2 ⟨rfl, h.chars⟩
  have hnone : natural? 10 ('-' :: s) = none := natural?_eq_none List.mem_cons_self rfl
  simp [unsigned?, marked?_eq_none hchars, hnone]

theorem Unsigned.negative?_minus (h : Unsigned s) (hpad : isPadded s = false) :
    negative? ('-' :: s) = (natural? 10 s).map fun n => -(n : Int) := by
  have hzero : hasLeadingZero s = false := (h.hasLeadingZero_eq false).trans hpad
  simp [negative?, marked?_eq_none h.chars, hzero]

/-! ## integers -/

theorem unsigned_toDigits (n : Nat) : Unsigned (Nat.toDigits 10 n) := by
  refine ⟨fun c hc => ?_, ?_⟩
  · rw [isNumberChar, Numeral.isDigit_of_mem_toDigits c hc]
    rfl
  · obtain ⟨c, r, hcr⟩ := List.exists_cons_of_ne_nil (Nat.toDigits_ne_nil (n := n) (b := 10))
    exact ⟨c, r, hcr, Numeral.isDigit_of_mem_toDigits c (hcr ▸ List.mem_cons_self)⟩

theorem isPadded_toDigits (n : Nat) : isPadded (Nat.toDigits 10 n) = false := by
  by_cases hn : n = 0
  · subst hn
    rfl
  · rw [isPadded, decide_eq_false (Numeral.head?_toDigits n hn), Bool.and_false, Bool.false_and]

theorem natural?_toDigits (n : Nat) : natural? 10 (Nat.toDigits 10 n) = some n := by
  rw [natural?_digits Nat.toDigits_ne_nil Numeral.isDigit_of_mem_toDigits,
    Numeral.ofDigits_toDigits]

theorem unsigned?_toDigits (n : Nat) : unsigned? (Nat.toDigits 10 n) = some n := by
  rw [(unsigned_toDigits n).unsigned?_eq (isPadded_toDigits n), natural?_toDigits]

theorem integer?_text (w : Whole) : integer? w.text = some w.val := by
  have hlow := w.low
  have hhigh := w.high
  have hdigits := unsigned_toDigits w.val.natAbs
  have hpad := isPadded_toDigits w.val.natAbs
  rw [integer?, Whole.text]
  split
  · have hval : -(w.val.natAbs : Int) = w.val := by omega
    rw [List.singleton_append, hdigits.unsigned?_minus, hdigits.negative?_minus hpad,
      natural?_toDigits]
    show Option.filter _ (some (-(w.val.natAbs : Int))) = _
    rw [hval]
    refine Option.filter_some_pos ?_
    simp only [Bool.and_eq_true, decide_eq_true_eq]
    omega
  · have hval : (w.val.natAbs : Int) = w.val := by omega
    rw [List.nil_append, unsigned?_toDigits]
    show Option.filter _ (some (w.val.natAbs : Int)) = _
    rw [hval]
    refine Option.filter_some_pos ?_
    simp only [Bool.and_eq_true, decide_eq_true_eq]
    omega

theorem plainValue?_whole (w : Whole) :
    plainValue? (String.ofList w.text) = some (.num (.int w)) := by
  have htext : w.text = sign (decide (w.val < 0)) ++ Nat.toDigits 10 w.val.natAbs := by
    simp [Whole.text, sign]
  have hstarts : startsNumber w.text = true := by
    rw [htext]
    exact (unsigned_toDigits w.val.natAbs).startsNumber _
  rw [plainValue?_of_integer hstarts (integer?_text w), intValue?, w.ofInt?_val]
  rfl

/-! ## numbers that are no integers -/

theorem Unsigned.integer?_eq_none (h : Unsigned s) (hc : c ∈ s) (hnone : digitValue? 10 c = none)
    (negative : Bool) : integer? (sign negative ++ s) = none := by
  have hpad := isPadded_eq_false hc hnone
  have hnatural : natural? 10 s = none := natural?_eq_none hc hnone
  cases negative with
  | true =>
    show integer? ('-' :: s) = none
    rw [integer?, h.unsigned?_minus, h.negative?_minus hpad, hnatural]
    rfl
  | false =>
    show integer? s = none
    rw [integer?, h.unsigned?_eq hpad, h.negative?_eq, hnatural]
    rfl

theorem Unsigned.float?_eq {x : Binary64} {negative : Bool} (h : Unsigned s)
    (hx : decimal? negative s = some x) (hfinite : x.isFinite = true) :
    float? (sign negative ++ s) = some x := by
  have hstarts := h.startsNumber negative
  simp only [float?]
  rw [if_neg (not_mem_of_startsNumber hstarts _ (by decide)),
    if_neg (not_mem_of_startsNumber hstarts _ (by decide)),
    if_neg (not_mem_of_startsNumber hstarts _ (by decide))]
  cases negative with
  | true =>
    show (decimal? true s).filter _ = _
    rw [hx]
    exact Option.filter_some_pos hfinite
  | false =>
    obtain ⟨c, r, rfl, hc⟩ := h.head
    have hplus : c ≠ '+' := Json.State.ne_of_isDigit hc rfl
    have hminus : c ≠ '-' := Json.State.ne_of_isDigit hc rfl
    simp [sign, hplus, hminus, hx, hfinite]

/-! ## decimals -/

section
variable {whole places r : List Char} {negative : Bool} {e : Int}

theorem span_isDigit (hw : ∀ c ∈ whole, c.isDigit = true) (hr : ∀ c ∈ r.head?, c.isDigit = false) :
    (whole ++ r).takeWhile Char.isDigit = whole ∧ (whole ++ r).dropWhile Char.isDigit = r := by
  have hrest : r.takeWhile Char.isDigit = [] ∧ r.dropWhile Char.isDigit = r := by
    cases r with
    | nil => exact ⟨rfl, rfl⟩
    | cons c r => simp [hr c rfl]
  rw [List.takeWhile_append_of_pos hw, List.dropWhile_append_of_pos hw, hrest.1, hrest.2,
    List.append_nil]
  exact ⟨rfl, rfl⟩

theorem decimal?_of_whole (hw : ∀ c ∈ whole, c.isDigit = true) (hne : whole ≠ [])
    (hr : ∀ c ∈ r.head?, c.isDigit = false ∧ c ≠ '.') (he : exponent? r = some e) :
    decimal? negative (whole ++ r) = some (.ofDecimal negative (ofDigits whole) e) := by
  obtain ⟨h₁, h₂⟩ := span_isDigit hw fun c hc => (hr c hc).1
  simp only [decimal?, h₁, h₂]
  cases r with
  | nil => simp [natural?_digits hne hw, he]
  | cons c r => simp [(hr c rfl).2, natural?_digits hne hw, he]

theorem decimal?_of_places (hw : ∀ c ∈ whole, c.isDigit = true) (hne : whole ≠ [])
    (hp : ∀ c ∈ places, c.isDigit = true) (hr : ∀ c ∈ r.head?, c.isDigit = false)
    (he : exponent? r = some e) :
    decimal? negative (whole ++ '.' :: (places ++ r)) =
      some (.ofDecimal negative (ofDigits (whole ++ places)) (e - places.length)) := by
  have hpoint : ∀ c ∈ ('.' :: (places ++ r)).head?, c.isDigit = false := by
    rintro c ⟨⟩
    rfl
  obtain ⟨h₁, h₂⟩ := span_isDigit hw hpoint
  obtain ⟨h₃, h₄⟩ := span_isDigit hp hr
  have hdigits : ∀ c ∈ whole ++ places, c.isDigit = true := List.forall_mem_append.2 ⟨hw, hp⟩
  have hne' : whole ++ places ≠ [] := List.append_ne_nil_of_left_ne_nil hne _
  simp only [decimal?, h₁, h₂, h₃, h₄, natural?_digits hne' hdigits, he, Option.bind_some,
    Option.map_some]

end

theorem exponent?_text (k : Int) :
    exponent? ('e' :: ((if k < 0 then ['-'] else []) ++ Nat.toDigits 10 k.natAbs)) = some k := by
  split
  · rename_i hk
    simp [exponent?, natural?_toDigits, abs_of_neg hk]
  · have hk : (k.natAbs : Int) = k := by omega
    obtain ⟨c, r, hcr, hc⟩ := (unsigned_toDigits k.natAbs).head
    have hplus : c ≠ '+' := Json.State.ne_of_isDigit hc rfl
    have hminus : c ≠ '-' := Json.State.ne_of_isDigit hc rfl
    have hnatural := natural?_toDigits k.natAbs
    rw [hcr] at hnatural ⊢
    simp [exponent?, hplus, hminus, hnatural, hk]

/-! ## laid out decimals -/

/-- the text of a rational that is no integer's text -/
structure Writes (s : List Char) (v : ℚ) : Prop where
  unsigned : Unsigned s
  mark : ∃ c ∈ s, digitValue? 10 c = none
  reads : ∃ (n : Nat) (e : Int), (n : ℚ) * 10 ^ e = v ∧
    ∀ negative, decimal? negative s = some (.ofDecimal negative n e)

theorem isNumberChar_of_isDigit (h : c.isDigit = true) : isNumberChar c = true := by
  rw [isNumberChar, h]
  rfl

theorem isDigit_of_mem_zeros (n : Nat) : ∀ c ∈ List.replicate n '0', c.isDigit = true := by
  intro c hc
  rw [List.eq_of_mem_replicate hc]
  rfl

section
variable {whole places r : List Char} {e : Int} {v : ℚ}

theorem writes_whole (hw : ∀ c ∈ whole, c.isDigit = true) (hne : whole ≠ [])
    (hchars : ∀ c ∈ r, isNumberChar c = true) (he : exponent? ('e' :: r) = some e)
    (hv : (ofDigits whole : ℚ) * 10 ^ e = v) : Writes (whole ++ 'e' :: r) v := by
  have hr : ∀ c ∈ ('e' :: r).head?, c.isDigit = false ∧ c ≠ '.' := by
    rintro c ⟨⟩
    exact ⟨rfl, by decide⟩
  refine ⟨⟨?_, ?_⟩, ⟨'e', by simp, rfl⟩, ⟨_, _, hv, fun negative => decimal?_of_whole hw hne hr he⟩⟩
  · refine List.forall_mem_append.2 ⟨fun c hc => isNumberChar_of_isDigit (hw c hc), ?_⟩
    exact List.forall_mem_cons.2 ⟨rfl, hchars⟩
  · obtain ⟨c, s, rfl⟩ := List.exists_cons_of_ne_nil hne
    exact ⟨c, _, rfl, hw c List.mem_cons_self⟩

theorem writes_places (hw : ∀ c ∈ whole, c.isDigit = true) (hne : whole ≠ [])
    (hp : ∀ c ∈ places, c.isDigit = true) (hr : ∀ c ∈ r.head?, c.isDigit = false)
    (hchars : ∀ c ∈ r, isNumberChar c = true) (he : exponent? r = some e)
    (hv : (ofDigits (whole ++ places) : ℚ) * 10 ^ (e - places.length) = v) :
    Writes (whole ++ '.' :: (places ++ r)) v := by
  refine ⟨⟨?_, ?_⟩, ⟨'.', by simp, rfl⟩,
    ⟨_, _, hv, fun negative => decimal?_of_places hw hne hp hr he⟩⟩
  · refine List.forall_mem_append.2 ⟨fun c hc => isNumberChar_of_isDigit (hw c hc), ?_⟩
    refine List.forall_mem_cons.2 ⟨rfl, ?_⟩
    exact List.forall_mem_append.2 ⟨fun c hc => isNumberChar_of_isDigit (hp c hc), hchars⟩
  · obtain ⟨c, s, rfl⟩ := List.exists_cons_of_ne_nil hne
    exact ⟨c, _, rfl, hw c List.mem_cons_self⟩

end

section
variable {d : Decimal} (hd : d.Proper)
include hd

theorem digits_ne_nil : d.digits ≠ [] := by
  obtain ⟨c, r, hcr, -⟩ := hd.head
  rw [hcr]
  exact List.cons_ne_nil c r

/-- zeros between the point and the digits -/
theorem writes_after_zeros (h : d.exponent < 0) :
    Writes (['0', '.'] ++ List.replicate (-d.exponent - 1).toNat '0' ++ d.digits) d.value := by
  have htext : ['0', '.'] ++ List.replicate (-d.exponent - 1).toNat '0' ++ d.digits =
      ['0'] ++ '.' :: ((List.replicate (-d.exponent - 1).toNat '0' ++ d.digits) ++ []) := by simp
  have hdigits : ofDigits (['0'] ++ (List.replicate (-d.exponent - 1).toNat '0' ++ d.digits)) =
      ofDigits d.digits := by
    rw [Numeral.ofDigits_append, Numeral.ofDigits_append, Numeral.ofDigits_zeros]
    simp [ofDigits, Numeral.digitValue]
  have hexponent : (0 : Int) - (List.replicate (-d.exponent - 1).toNat '0' ++ d.digits).length =
      d.exponent + 1 - d.digits.length := by
    rw [List.length_append, List.length_replicate]
    omega
  rw [htext]
  refine writes_places (List.forall_mem_singleton.2 rfl) (List.cons_ne_nil '0' [])
    (List.forall_mem_append.2 ⟨isDigit_of_mem_zeros _, hd.digits⟩) (by simp) (by simp) rfl ?_
  rw [hdigits, hexponent]
  rfl

/-- zeros between the digits and the point -/
theorem writes_before_zeros {n : Nat} (hn : d.exponent + 1 - d.digits.length = n) :
    Writes (d.digits ++ List.replicate n '0' ++ ['.', '0']) d.value := by
  have htext : d.digits ++ List.replicate n '0' ++ ['.', '0'] =
      (d.digits ++ List.replicate n '0') ++ '.' :: (['0'] ++ []) := by simp
  have hdigits : ofDigits ((d.digits ++ List.replicate n '0') ++ ['0']) =
      ofDigits d.digits * 10 ^ n * 10 := by
    rw [Numeral.ofDigits_append, Numeral.ofDigits_append, Numeral.ofDigits_zeros,
      List.length_replicate]
    rfl
  rw [htext]
  refine writes_places (List.forall_mem_append.2 ⟨hd.digits, isDigit_of_mem_zeros _⟩)
    (List.append_ne_nil_of_left_ne_nil (digits_ne_nil hd) _) (List.forall_mem_singleton.2 rfl)
    nofun nofun rfl ?_
  rw [hdigits, Decimal.value, hn, zpow_natCast]
  norm_num
  ring

/-- the point is among the digits -/
theorem writes_around_point {n : Nat} (hn : d.exponent + 1 = n) (hpos : 0 < n)
    (hlength : n ≤ d.digits.length) :
    Writes (d.digits.take n ++ '.' :: d.digits.drop n) d.value := by
  have hlast : d.digits.take n ≠ [] := by
    rw [ne_eq, List.take_eq_nil_iff, not_or]
    exact ⟨hpos.ne', digits_ne_nil hd⟩
  have hexponent : (0 : Int) - (d.digits.drop n).length = d.exponent + 1 - d.digits.length := by
    rw [List.length_drop]
    omega
  rw [← List.append_nil (d.digits.drop n)]
  refine writes_places (fun c hc => hd.digits c (List.mem_of_mem_take hc)) hlast
    (fun c hc => hd.digits c (List.mem_of_mem_drop hc)) nofun nofun rfl ?_
  rw [List.take_append_drop, hexponent]
  rfl

theorem writes_positionalText (l : Layout) (hl : l.keepsPlace = true) :
    Writes (l.positionalText d) d.value := by
  simp only [Layout.positionalText, hl, if_true]
  split
  · exact writes_after_zeros hd ‹_›
  split
  · exact writes_before_zeros hd (by omega)
  · exact writes_around_point hd (by omega) (Nat.succ_pos _) (by omega)

theorem writes_scientificText (l : Layout) (hl : l.signsExponent = false) :
    Writes (l.scientificText d) d.value := by
  obtain ⟨c, r, hcr, -⟩ := hd.head
  obtain ⟨hc, hr⟩ := List.forall_mem_cons.1 (hcr ▸ hd.digits)
  have hsign : l.exponentSign d = if d.exponent < 0 then ['-'] else [] := by
    rw [Layout.exponentSign, hl]
    rfl
  have hchars : ∀ c ∈ (if d.exponent < 0 then ['-'] else []) ++ Nat.toDigits 10 d.exponent.natAbs,
      isNumberChar c = true := by
    refine List.forall_mem_append.2 ⟨?_, (unsigned_toDigits _).chars⟩
    split
    · exact List.forall_mem_singleton.2 rfl
    · exact nofun
  rw [Layout.scientificText, hsign, hcr]
  cases r with
  | nil =>
    show Writes ([c] ++ 'e' :: _) _
    refine writes_whole (List.forall_mem_singleton.2 hc) (List.cons_ne_nil c []) hchars
      (exponent?_text d.exponent) ?_
    rw [Decimal.value, hcr]
    simp
  | cons c' r =>
    rw [if_neg (by simp)]
    have htext := writes_places (v := d.value) (List.forall_mem_singleton.2 hc)
      (List.cons_ne_nil c []) hr ?_ (List.forall_mem_cons.2 ⟨rfl, hchars⟩)
      (exponent?_text d.exponent) ?_
    · simpa using htext
    · rintro c ⟨⟩
      rfl
    · rw [Decimal.value, hcr]
      congr 2
      simp

theorem writes_digitsText : Writes (Layout.yaml.digitsText d) d.value := by
  show Writes (if -5 ≤ d.exponent ∧ d.exponent ≤ 15 then _ else _) _
  split
  · exact writes_positionalText hd Layout.yaml rfl
  · exact writes_scientificText hd Layout.yaml rfl

end

/-! ## binary64 numbers -/

section
variable {x : Binary64}

theorem eq_infinity (h : x.isInfinite = true) : x = .infinity x.negative := by
  rw [Binary64.isInfinite, Bool.and_eq_true, beq_iff_eq, beq_iff_eq] at h
  have hparts : x.exponentField * Binary64.hiddenBit + x.fraction = x.magnitudeBits :=
    Nat.div_add_mod' _ _
  rw [h.1, h.2] at hparts
  rw [Binary64.infinity, Binary64.infinityBits, ← Nat.add_zero (2047 * _), hparts,
    Binary64.ofParts_magnitudeBits]

theorem isFinite_of_not (hnan : x.isNaN = false) (hinfinite : x.isInfinite = false) :
    x.isFinite = true := by
  have hfield : x.exponentField < 2048 :=
    Nat.div_lt_of_lt_mul (Nat.mod_lt _ (by decide))
  by_contra h
  have hmax : x.exponentField = 2047 := by
    rw [Binary64.isFinite, decide_eq_true_eq] at h
    omega
  rw [Binary64.isNaN, hmax] at hnan
  rw [Binary64.isInfinite, hmax] at hinfinite
  cases hfraction : x.fraction == 0 <;> simp_all

theorem plainValue?_infinity (negative : Bool) :
    plainValue? (String.ofList (sign negative ++ Layout.yaml.infinity.toList)) =
      some (.num (.float (.infinity negative))) := by
  cases negative <;> rfl

theorem plainValue?_zero (negative : Bool) :
    plainValue? (String.ofList (sign negative ++ ['0', '.', '0'])) =
      some (.num (.float (.ofParts negative 0))) := by
  cases negative <;> rfl

/-- **A binary64 number is read back from its text**: the shortest digits are near it, and its text
begins and goes on as none of an integer, a truth value or null does. -/
theorem plainValue?_float (h : x.isNaN = true → x = .nan) :
    plainValue? (String.ofList (Layout.yaml.text x)) = some (.num (.float x)) := by
  have hx : .ofParts x.negative x.magnitudeBits = x := x.ofParts_magnitudeBits
  show plainValue? (String.ofList
    (if x.isNaN then Layout.yaml.nan.toList
      else sign x.negative ++
        if x.isInfinite then Layout.yaml.infinity.toList
        else if x.isZero then ['0', '.', '0'] else Layout.yaml.digitsText (.shortest x))) = _
  split
  · rw [h ‹_›]
    rfl
  rename_i hnan
  split
  · rename_i hinfinite
    have htext := plainValue?_infinity x.negative
    rwa [← eq_infinity hinfinite] at htext
  rename_i hinfinite
  split
  · rename_i hzero
    have hmagnitude : x.magnitudeBits = 0 := beq_iff_eq.1 hzero
    rw [hmagnitude] at hx
    have htext := plainValue?_zero x.negative
    rwa [hx] at htext
  · rename_i hzero
    have hfinite : x.isFinite = true := isFinite_of_not (by simpa using hnan) (by simpa using hinfinite)
    have hm : 0 < x.significand := Nat.pos_of_ne_zero fun e => hzero (Binary64.isZero_iff.2 e)
    have hproper := Decimal.proper_shortest hm
    obtain ⟨hunsigned, ⟨c, hc, hnone⟩, n, e, hvalue, hreads⟩ := writes_digitsText hproper
    have hdecimal := hreads x.negative
    rw [Binary64.ofDecimal_shortest hfinite hm hvalue, hx] at hdecimal
    have hzero := (hunsigned.hasLeadingZero_eq x.negative).trans (isPadded_eq_false hc hnone)
    exact plainValue?_of_float (hunsigned.startsNumber x.negative)
      (hunsigned.integer?_eq_none hc hnone x.negative) hzero (hunsigned.float?_eq hdecimal hfinite)

end

end PromptDispatch.Yaml.Scalar

import Mathlib.Data.List.Induction
import PromptDispatch.Proofs.Decimal.Rounding
import PromptDispatch.Proofs.Json.Tokens

/-!
# Shortest decimals read back

Every grid with seventeen digits of a finite number has a decimal that is near the number, so that
the search for one ends with a hit.  What is found is read back as the number.

* `Decimal.zpow_exponentOf_le`   a power of ten below a quotient;
* `Decimal.exists_onGrid`        seventeen digits are enough;
* `Decimal.shortest_near`        the shortest digits are near the number;
* `Binary64.ofDecimal_of_near`   and what is near is read back;
* `Binary64.ofDecimal_shortest`  both of these.
-/

namespace PromptDispatch

/-! ## digits -/

namespace Numeral

theorem ofDigits_append (s t : List Char) :
    ofDigits (s ++ t) = ofDigits s * 10 ^ t.length + ofDigits t := by
  induction t using List.reverseRecOn with
  | nil => simp [ofDigits]
  | append_singleton t c ih =>
    have hlast (r : List Char) : ofDigits (r ++ [c]) = ofDigits r * 10 + digitValue c := by
      simp [ofDigits]
    rw [← List.append_assoc, hlast, hlast, ih, List.length_append, List.length_singleton, pow_succ]
    ring

theorem ofDigits_zeros (n : Nat) : ofDigits (List.replicate n '0') = 0 := by
  induction n with
  | zero => rfl
  | succ n ih => exact ih

end Numeral

open Numeral (ofDigits)

theorem pow_pred_length_le {n : Nat} (hn : 0 < n) : 10 ^ ((Nat.toDigits 10 n).length - 1) ≤ n := by
  by_contra h
  have hpos : 0 < (Nat.toDigits 10 n).length - 1 := by
    by_contra h0
    rw [Nat.eq_zero_of_not_pos h0] at h
    omega
  have := (Nat.length_toDigits_le_iff (by decide) hpos).2 (Nat.lt_of_not_le h)
  omega

theorem length_toDigits_pos (n : Nat) : 0 < (Nat.toDigits 10 n).length :=
  List.length_pos_iff.2 Nat.toDigits_ne_nil

theorem lt_pow_length (n : Nat) : n < 10 ^ ((Nat.toDigits 10 n).length - 1 + 1) := by
  rw [Nat.sub_add_cancel (length_toDigits_pos n)]
  exact (Nat.length_toDigits_le_iff (by decide) (length_toDigits_pos n)).1 (Nat.le_refl _)

namespace Decimal

variable {x : Binary64} {num den : Nat} {k : Int} {d : Nat}

/-! ## a power of ten below a quotient -/

theorem zpow_exponentOf_le (hnum : 0 < num) (hden : 0 < den) :
    (10 : ℚ) ^ exponentOf num den ≤ num / den := by
  have hlength : ((Nat.toDigits 10 num).length : Int) - (Nat.toDigits 10 den).length - 1 =
      ((Nat.toDigits 10 num).length - 1 : Nat) - ((Nat.toDigits 10 den).length - 1 : Nat) - 1 := by
    have := length_toDigits_pos num
    have := length_toDigits_pos den
    omega
  simp only [exponentOf]
  split
  · rename_i h
    rw [mul_comm] at h
    exact_mod_cast (zpow_le_div_iff (by decide) _ hden).2 h
  · rw [hlength]
    exact_mod_cast zpow_le_div (by decide) (pow_pred_length_le hnum) hden (lt_pow_length den)

/-! ## grids -/

theorem reads_iff_near (hm : 0 < x.significand) :
    roundsTo x (d * Nat.pow 10 k.toNat) (Nat.pow 10 (-k).toNat) = true ↔ x.Near (d * 10 ^ k) := by
  have hpow := zpow_eq_div (b := 10) (by decide) k
  have hvalue : ((d * 10 ^ k.toNat : Nat) : ℚ) / ((10 ^ (-k).toNat : Nat) : ℚ) = d * 10 ^ k := by
    rw [Nat.cast_mul, mul_div_assoc, ← hpow, Nat.cast_ofNat]
  rw [Nat.pow_eq, Nat.pow_eq, roundsTo_iff_near hm (Nat.pow_pos (by decide)), hvalue]

theorem natDiv_bounds (num : Nat) (hden : 0 < den) :
    ((num / den : Nat) : ℚ) ≤ num / den ∧ (num : ℚ) / den < ((num / den + 1 : Nat) : ℚ) := by
  have hden' : (0 : ℚ) < den := Nat.cast_pos.2 hden
  rw [le_div_iff₀ hden', div_lt_iff₀ hden', mul_comm (((num / den + 1 : Nat)) : ℚ)]
  exact ⟨mod_cast Nat.div_mul_le_self num den, mod_cast Nat.lt_mul_div_succ num hden⟩

def below (x : Binary64) (k : Int) : Nat :=
  x.ratio.1 * Nat.pow 10 (-k).toNat / (x.ratio.2 * Nat.pow 10 k.toNat)

theorem below_bounds (x : Binary64) (k : Int) :
    (below x k : ℚ) * 10 ^ k ≤ x.value ∧ x.value < ((below x k + 1 : Nat) : ℚ) * 10 ^ k := by
  have hpow : (0 : ℚ) < 10 ^ k := zpow_pos (by norm_num) _
  have hden : 0 < x.ratio.2 * 10 ^ k.toNat := Nat.mul_pos x.ratio_pos (Nat.pow_pos (by decide))
  have hratio : ((x.ratio.1 * 10 ^ (-k).toNat : Nat) : ℚ) / ((x.ratio.2 * 10 ^ k.toNat : Nat) : ℚ) =
      x.value / 10 ^ k := by
    have he := zpow_eq_div (b := 10) (by decide) k
    rw [Nat.cast_ofNat] at he
    rw [he, ← x.ratio_eq, Nat.cast_mul, Nat.cast_mul, div_div_div_eq]
  rw [← le_div_iff₀ hpow, ← div_lt_iff₀ hpow, ← hratio, below, Nat.pow_eq, Nat.pow_eq]
  exact natDiv_bounds _ hden

theorem roundHalfEven_cases (num den : Nat) :
    Binary64.roundHalfEven num den = num / den ∨ Binary64.roundHalfEven num den = num / den + 1 := by
  simp only [Binary64.roundHalfEven]
  split
  · exact .inl rfl
  split
  · exact .inr rfl
  · omega

theorem onGrid_near (hm : 0 < x.significand) (h : onGrid x k = some d) :
    0 < d ∧ x.Near (d * 10 ^ k) := by
  have hreads {d : Nat} (h : (decide (0 < d) &&
      roundsTo x (d * Nat.pow 10 k.toNat) (Nat.pow 10 (-k).toNat)) = true) :
      0 < d ∧ x.Near (d * 10 ^ k) := by
    rw [Bool.and_eq_true, decide_eq_true_eq, reads_iff_near hm] at h
    exact h
  simp only [onGrid] at h
  split at h
  · rename_i h₁ h₂
    cases h
    rcases roundHalfEven_cases (x.ratio.1 * Nat.pow 10 (-k).toNat)
      (x.ratio.2 * Nat.pow 10 k.toNat) with e | e
    · rw [e]
      exact hreads h₁
    · rw [e]
      exact hreads h₂
  · rename_i h₁ _
    cases h
    exact hreads h₁
  · rename_i _ h₂
    cases h
    exact hreads h₂
  · cases h

/-- a step smaller than the interval of a number cannot pass over it -/
theorem near_of_step {a b : ℚ} (ha : a ≤ x.value) (hb : x.value < b)
    (hstep : (b - a) * 10 ^ 16 ≤ x.value) : x.Near a ∨ x.Near b := by
  have hunit := x.unit_pos
  rw [Binary64.value, ← div_le_iff₀ hunit] at ha hstep
  rw [Binary64.value, ← lt_div_iff₀ hunit] at hb
  have hstep : (b / x.unit - a / x.unit) * 10 ^ 16 ≤ x.significand := by
    rw [← sub_div, div_mul_eq_mul_div]
    exact hstep
  have hbit : (Binary64.hiddenBit : ℚ) = 2 ^ 52 := by norm_num [Binary64.hiddenBit]
  have htop : (x.significand : ℚ) < 2 * Binary64.hiddenBit := mod_cast x.significand_lt
  by_contra h
  rw [not_or] at h
  have hlow : a / x.unit ≤ x.significand - x.stepsBelow / 4 := by
    by_contra hlow
    exact h.1 (Binary64.near_of_lt (not_le.1 hlow) (by linarith))
  have hhigh : (x.significand : ℚ) + 1 / 2 ≤ b / x.unit := by
    by_contra hhigh
    have hsteps : (0 : ℚ) ≤ x.stepsBelow := Nat.cast_nonneg _
    exact h.2 (Binary64.near_of_lt (by linarith) (not_le.1 hhigh))
  rw [Binary64.stepsBelow] at hlow
  split at hlow
  · -- at a power of two three quarters of the unit are wider than the step
    rename_i hm_eq
    rw [hm_eq.1, hbit] at *
    push_cast at hlow
    linarith
  · rw [hbit] at htop
    push_cast at hlow
    linarith

/-- **Seventeen digits are enough**: on a grid so fine the decimal below a number or the one above it
is near the number. -/
theorem exists_onGrid (hm : 0 < x.significand) (hk : (10 : ℚ) ^ (k + 16) ≤ x.value) :
    ∃ d, onGrid x k = some d := by
  have hpow : (0 : ℚ) < 10 ^ k := zpow_pos (by norm_num) _
  rw [zpow_add₀ (by norm_num), mul_comm] at hk
  obtain ⟨hlow, hhigh⟩ := below_bounds x k
  have hbelow : 0 < below x k := by
    have h := lt_of_mul_lt_mul_right (hk.trans_lt hhigh) hpow.le
    by_contra h0
    rw [Nat.eq_zero_of_not_pos h0] at h
    norm_num at h
  have hnear : x.Near (below x k * 10 ^ k) ∨ x.Near ((below x k + 1 : Nat) * 10 ^ k) := by
    refine near_of_step hlow hhigh ?_
    have hstep : ((below x k + 1 : Nat) : ℚ) * 10 ^ k - below x k * 10 ^ k = 10 ^ k := by
      push_cast
      ring
    rw [hstep, mul_comm]
    exact_mod_cast hk
  rw [← reads_iff_near hm, ← reads_iff_near hm] at hnear
  rw [below] at hbelow hnear
  simp only [onGrid, hbelow, Nat.succ_pos, decide_true, Bool.true_and]
  rcases hnear with h | h
  · rw [h]
    split <;> simp_all
  · rw [h]
    split <;> simp_all

theorem search_near {top : Int} (hm : 0 < x.significand) (htop : (10 : ℚ) ^ top ≤ x.value)
    (left : Nat) :
    0 < (search x top left).1 ∧
      x.Near ((search x top left).1 * 10 ^ (search x top left).2) := by
  induction left with
  | zero =>
    obtain ⟨d, hd⟩ := exists_onGrid (k := top - 16) hm (by rwa [sub_add_cancel])
    rw [search, hd]
    exact onGrid_near hm hd
  | succ left ih =>
    simp only [search]
    split
    · exact onGrid_near hm ‹_›
    · exact ih

/-! ## the shortest digits -/

def value (d : Decimal) : ℚ := ofDigits d.digits * 10 ^ (d.exponent + 1 - d.digits.length)

/-- digits, of which the first is not a zero -/
structure Proper (d : Decimal) : Prop where
  digits : ∀ c ∈ d.digits, c.isDigit = true
  head : ∃ c r, d.digits = c :: r ∧ c ≠ '0'

theorem exists_stripZeros (s : List Char) : ∃ n, s = stripZeros s ++ List.replicate n '0' := by
  have hzeros : s.reverse.takeWhile (· = '0') =
      List.replicate (s.reverse.takeWhile (· = '0')).length '0' :=
    List.eq_replicate_of_mem fun c hc => by simpa using List.mem_takeWhile_imp hc
  refine ⟨(s.reverse.takeWhile (· = '0')).length, List.reverse_injective ?_⟩
  rw [List.reverse_append, List.reverse_replicate, ← hzeros, stripZeros, List.reverse_reverse,
    List.takeWhile_append_dropWhile]

/-- the shortest digits are those of a near decimal, without the zeros at their end -/
theorem exists_shortest (hm : 0 < x.significand) :
    ∃ (d : Nat) (k : Int) (n : Nat), 0 < d ∧ x.Near (d * 10 ^ k) ∧
      Nat.toDigits 10 d = (shortest x).digits ++ List.replicate n '0' ∧
      (shortest x).exponent + 1 - (shortest x).digits.length = k + n := by
  have hnum : 0 < x.ratio.1 := by
    rw [Binary64.ratio_fst]
    exact Binary64.shifted_pos hm _
  have htop := zpow_exponentOf_le hnum x.ratio_pos
  rw [x.ratio_eq] at htop
  obtain ⟨hd, hnear⟩ := search_near hm htop 16
  obtain ⟨n, hn⟩ := exists_stripZeros
    (Nat.toDigits 10 (search x (exponentOf x.ratio.1 x.ratio.2) 16).1)
  refine ⟨_, _, n, hd, hnear, hn, ?_⟩
  have hlength := congrArg List.length hn
  rw [List.length_append, List.length_replicate] at hlength
  simp only [shortest]
  omega

theorem proper_shortest (hm : 0 < x.significand) : (shortest x).Proper := by
  obtain ⟨d, k, n, hd, -, hdigits, -⟩ := exists_shortest hm
  constructor
  · intro c hc
    refine Numeral.isDigit_of_mem_toDigits (n := d) c ?_
    rw [hdigits]
    exact List.mem_append_left _ hc
  · have hhead := Numeral.head?_toDigits d hd.ne'
    obtain ⟨c, r, hcr⟩ := List.exists_cons_of_ne_nil (Nat.toDigits_ne_nil (n := d) (b := 10))
    rw [hcr] at hhead hdigits
    cases hs : (shortest x).digits with
    | nil =>
      rw [hs, List.nil_append] at hdigits
      have hc : c = '0' := List.eq_of_mem_replicate (hdigits ▸ List.mem_cons_self)
      exact absurd (congrArg some hc) hhead
    | cons c' r' =>
      rw [hs, List.cons_append] at hdigits
      cases hdigits
      exact ⟨c, r', rfl, fun e => hhead (congrArg some e)⟩

/-- the shortest digits are near the number -/
theorem shortest_near (hm : 0 < x.significand) : x.Near (shortest x).value := by
  obtain ⟨d, k, n, -, hnear, hdigits, hexponent⟩ := exists_shortest hm
  have hd : d = ofDigits (shortest x).digits * 10 ^ n := by
    have h := Numeral.ofDigits_toDigits d
    rw [hdigits, Numeral.ofDigits_append, Numeral.ofDigits_zeros, List.length_replicate,
      Nat.add_zero] at h
    exact h.symm
  have hvalue : (shortest x).value = d * 10 ^ k := by
    rw [value, hexponent, zpow_add₀ (by norm_num), zpow_natCast, hd]
    push_cast
    ring
  rwa [hvalue]

end Decimal

namespace Binary64

variable {x : Binary64} {negative : Bool} {n : Nat} {e : Int}

/-! ## reading back -/

theorem two_zpow_le (k : Nat) : (2 : ℚ) ^ ((3 * k : Nat) : Int) ≤ 10 ^ (k : Int) := by
  rw [zpow_natCast, zpow_natCast, pow_mul]
  exact pow_le_pow_left₀ (by norm_num) (by norm_num) k

/-- what is near a positive number is not too small to be looked at -/
theorem lt_of_near {v : ℚ} (hm : 0 < x.significand) (h : x.Near v) :
    (10 : ℚ) ^ (-400 : Int) < v := by
  have hsteps : (x.stepsBelow : ℚ) ≤ 2 := mod_cast x.stepsBelow_le
  have hm' : (1 : ℚ) ≤ x.significand := mod_cast hm
  have hlow : (2 : ℚ) ^ (-1 : Int) ≤ v / x.unit := by
    have := h.low
    norm_num
    linarith
  have hunit : (2 : ℚ) ^ (-1074 : Int) ≤ x.unit := zpow_le_zpow_right₀ one_le_two (by omega)
  rw [← div_mul_cancel₀ v x.unit_pos.ne']
  calc (10 : ℚ) ^ (-400 : Int) ≤ 2 ^ (-1200 : Int) := by
        rw [zpow_neg, zpow_neg]
        exact inv_anti₀ (zpow_pos two_pos _) (two_zpow_le 400)
    _ < 2 ^ (-1 : Int) * 2 ^ (-1074 : Int) := by
        rw [← zpow_add₀ two_ne_zero]
        exact zpow_lt_zpow_right₀ one_lt_two (by decide)
    _ ≤ v / x.unit * x.unit :=
        mul_le_mul hlow hunit (zpow_pos two_pos _).le ((zpow_pos two_pos _).le.trans hlow)

/-- what is near a finite number is not too great to be looked at -/
theorem near_lt {v : ℚ} (hx : x.isFinite = true) (h : x.Near v) : v < 10 ^ (399 : Int) := by
  have hfield : x.exponentField < 2047 := of_decide_eq_true hx
  have hscale : x.scale ≤ 2045 := by
    rw [Binary64.scale]
    omega
  have hhigh : v / x.unit < 2 ^ (53 : Int) := by
    have htop : (x.significand : ℚ) + 1 ≤ 2 * hiddenBit := mod_cast x.significand_lt
    have hbit : (2 : ℚ) ^ (53 : Int) = 2 * hiddenBit := by norm_num [hiddenBit]
    have := h.high
    linarith
  have hunit : x.unit ≤ 2 ^ (971 : Int) := zpow_le_zpow_right₀ one_le_two (by omega)
  rw [← div_mul_cancel₀ v x.unit_pos.ne']
  calc v / x.unit * x.unit < 2 ^ (53 : Int) * x.unit := mul_lt_mul_of_pos_right hhigh x.unit_pos
    _ ≤ 2 ^ (53 : Int) * 2 ^ (971 : Int) :=
        mul_le_mul_of_nonneg_left hunit (zpow_pos two_pos _).le
    _ ≤ 2 ^ (1197 : Int) := by
        rw [← zpow_add₀ two_ne_zero]
        exact zpow_le_zpow_right₀ one_le_two (by decide)
    _ ≤ 10 ^ (399 : Int) := two_zpow_le 399

theorem length_bounds (hn : 0 < n) (hlow : (10 : ℚ) ^ (-400 : Int) < n * 10 ^ e)
    (hhigh : (n : ℚ) * 10 ^ e < 10 ^ (399 : Int)) :
    -400 < e + (Nat.toDigits 10 n).length ∧ e + (Nat.toDigits 10 n).length < 400 := by
  have hpow : (0 : ℚ) < 10 ^ e := zpow_pos (by norm_num) _
  have hlength := length_toDigits_pos n
  have hpred : (10 : ℚ) ^ ((Nat.toDigits 10 n).length - 1) ≤ n := mod_cast pow_pred_length_le hn
  have hsucc : (n : ℚ) < 10 ^ (Nat.toDigits 10 n).length := by
    have := lt_pow_length n
    rw [Nat.sub_add_cancel hlength] at this
    exact_mod_cast this
  have hmany : (10 : ℚ) ^ (-400 : Int) < 10 ^ (((Nat.toDigits 10 n).length : Int) + e) := by
    rw [zpow_add₀ (by norm_num), zpow_natCast]
    exact hlow.trans (mul_lt_mul_of_pos_right hsucc hpow)
  have hfew : (10 : ℚ) ^ ((((Nat.toDigits 10 n).length - 1 : Nat) : Int) + e) < 10 ^ (399 : Int) := by
    rw [zpow_add₀ (by norm_num), zpow_natCast]
    exact (mul_le_mul_of_nonneg_right hpred hpow.le).trans_lt hhigh
  have h₁ := (zpow_lt_zpow_iff_right₀ (by norm_num)).1 hmany
  have h₂ := (zpow_lt_zpow_iff_right₀ (by norm_num)).1 hfew
  omega

/-- **What is near a number is read back as it.** -/
theorem ofDecimal_of_near (hx : x.isFinite = true) (hm : 0 < x.significand)
    (h : x.Near (n * 10 ^ e)) : ofDecimal negative n e = ofParts negative x.magnitudeBits := by
  have hlow := lt_of_near hm h
  have hn : 0 < n := by
    by_contra h0
    rw [Nat.eq_zero_of_not_pos h0, Nat.cast_zero, zero_mul] at hlow
    exact absurd hlow (not_lt.2 (zpow_pos (by norm_num) _).le)
  obtain ⟨hmany, hfew⟩ := length_bounds hn hlow (near_lt hx h)
  have hratio : ((n * 10 ^ e.toNat : Nat) : ℚ) / ((10 ^ (-e).toNat : Nat) : ℚ) = n * 10 ^ e := by
    have he := zpow_eq_div (b := 10) (by decide) e
    rw [Nat.cast_ofNat] at he
    rw [he, Nat.cast_mul, mul_div_assoc]
  simp only [ofDecimal, if_neg hn.ne']
  rw [if_neg (by omega), if_neg (by omega), Nat.pow_eq, Nat.pow_eq]
  refine ofRatio_of_near hx hm (Nat.pow_pos (by decide)) ?_
  rwa [hratio]

/-- **The shortest digits are read back**, in whatever way their decimal is written. -/
theorem ofDecimal_shortest (hx : x.isFinite = true) (hm : 0 < x.significand)
    (h : (n : ℚ) * 10 ^ e = (Decimal.shortest x).value) :
    ofDecimal negative n e = ofParts negative x.magnitudeBits :=
  ofDecimal_of_near hx hm (h ▸ Decimal.shortest_near hm)

end Binary64

end PromptDispatch

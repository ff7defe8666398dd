import Mathlib.Algebra.Order.Field.Power
import Mathlib.Data.Rat.Cast.Order
import Mathlib.Tactic.FieldSimp
import Mathlib.Tactic.Linarith
import Mathlib.Tactic.NormNum
import Mathlib.Tactic.Ring
import PromptDispatch.Decimal.Shortest

/-!
# Rounding to a binary64 number

A finite number is its significand times the unit of its last place.  The rationals that are rounded
to it are those between the middles to its neighbours, and at the lower end of a power of two the
lower neighbour is half as far away.  `Binary64.Near` says this of a rational, `ofRatio` rounds as it
says, and `roundsTo` decides it.

* `Binary64.roundHalfEven_eq`     the natural next to a quotient;
* `Binary64.two_zpow_binaryExponent_le`, `Binary64.lt_two_zpow_binaryExponent`
  the powers of two around a quotient;
* `Binary64.ofRatio_of_near`      what is near a number is rounded to it;
* `Decimal.roundsTo_iff_near`     and the test for it is exact.
-/

namespace PromptDispatch

/-! ## powers and quotients -/

section
variable {b num den : Nat} (hb : 0 < b)
include hb

theorem zpow_eq_div (e : Int) :
    (b : ℚ) ^ e = ((b ^ e.toNat : Nat) : ℚ) / ((b ^ (-e).toNat : Nat) : ℚ) := by
  have hb' : (b : ℚ) ≠ 0 := Nat.cast_ne_zero.2 hb.ne'
  have he : e = (e.toNat : Int) - ((-e).toNat : Int) := by omega
  conv_lhs => rw [he, zpow_sub₀ hb', zpow_natCast, zpow_natCast]
  rw [Nat.cast_pow, Nat.cast_pow]

theorem zpow_le_div_iff (e : Int) (hden : 0 < den) :
    (b : ℚ) ^ e ≤ num / den ↔ den * b ^ e.toNat ≤ num * b ^ (-e).toNat := by
  have hden' : (0 : ℚ) < den := Nat.cast_pos.2 hden
  have hpow : (0 : ℚ) < ((b ^ (-e).toNat : Nat) : ℚ) := Nat.cast_pos.2 (Nat.pow_pos hb)
  rw [zpow_eq_div hb, div_le_div_iff₀ hpow hden', mul_comm den]
  norm_cast

/-- numbers of `k + 1` and `l + 1` digits have a quotient of `k - l` digits, or one more -/
theorem zpow_le_div {k l : Nat} (hnum : b ^ k ≤ num) (hden : 0 < den) (hl : den < b ^ (l + 1)) :
    (b : ℚ) ^ ((k : Int) - l - 1) ≤ num / den := by
  have hb' : (b : ℚ) ≠ 0 := Nat.cast_ne_zero.2 hb.ne'
  have he : ((k : Int) - l - 1) = (k : Int) - (l + 1 : Nat) := by omega
  rw [he, zpow_sub₀ hb', zpow_natCast, zpow_natCast]
  exact div_le_div₀ (Nat.cast_nonneg _) (mod_cast hnum) (Nat.cast_pos.2 hden) (mod_cast hl.le)

theorem div_lt_zpow {k l : Nat} (hnum : num < b ^ (k + 1)) (hl : b ^ l ≤ den) :
    (num : ℚ) / den < (b : ℚ) ^ ((k : Int) - l + 1) := by
  have hb' : (b : ℚ) ≠ 0 := Nat.cast_ne_zero.2 hb.ne'
  have he : ((k : Int) - l + 1) = ((k + 1 : Nat) : Int) - l := by omega
  have hpow : (0 : ℚ) < (b : ℚ) ^ l := mod_cast Nat.pow_pos hb
  rw [he, zpow_sub₀ hb', zpow_natCast, zpow_natCast]
  exact div_lt_div₀ (mod_cast hnum) (mod_cast hl) (by positivity) hpow

end

namespace Binary64

variable {x : Binary64} {negative : Bool} {num den : Nat} {v : ℚ}

/-! ## parts of a number -/

def unit (x : Binary64) : ℚ := 2 ^ ((x.scale : Int) - 1074)

def value (x : Binary64) : ℚ := x.significand * x.unit

theorem unit_pos (x : Binary64) : 0 < x.unit := zpow_pos (by norm_num) _

theorem ratio_fst (x : Binary64) : x.ratio.1 = x.significand <<< (x.scale - 1074) := by
  unfold ratio
  rfl

theorem ratio_snd (x : Binary64) : x.ratio.2 = 1 <<< (1074 - x.scale) := by
  unfold ratio
  rfl

theorem ratio_pos (x : Binary64) : 0 < x.ratio.2 := by
  rw [ratio_snd, Nat.shiftLeft_eq, one_mul]
  exact Nat.two_pow_pos _

theorem ratio_eq (x : Binary64) : (x.ratio.1 : ℚ) / x.ratio.2 = x.value := by
  have he := zpow_eq_div two_pos ((x.scale : Int) - 1074)
  have h₁ : ((x.scale : Int) - 1074).toNat = x.scale - 1074 := by omega
  have h₂ : (-((x.scale : Int) - 1074)).toNat = 1074 - x.scale := by omega
  rw [Nat.cast_two, h₁, h₂] at he
  rw [ratio_fst, ratio_snd, Nat.shiftLeft_eq, Nat.shiftLeft_eq, one_mul, Nat.cast_mul, value, unit,
    he, mul_div_assoc]

theorem fraction_lt (x : Binary64) : x.fraction < hiddenBit := Nat.mod_lt _ (by decide)

theorem significand_lt (x : Binary64) : x.significand < 2 * hiddenBit := by
  have := x.fraction_lt
  rw [significand]
  split <;> omega

theorem hiddenBit_le_significand (h : 0 < x.scale) : hiddenBit ≤ x.significand := by
  rw [scale] at h
  rw [significand, if_neg (by omega)]
  exact Nat.le_add_right _ _

theorem magnitudeBits_eq (x : Binary64) :
    x.magnitudeBits = x.scale * hiddenBit + x.significand := by
  have hparts : x.exponentField * hiddenBit + x.fraction = x.magnitudeBits :=
    Nat.div_add_mod' _ _
  rw [scale, significand]
  split
  · rename_i h
    rw [← hparts, h]
  · rename_i h
    obtain ⟨k, hk⟩ := Nat.exists_eq_succ_of_ne_zero h
    rw [← hparts, hk, Nat.succ_sub_one, Nat.succ_mul]
    omega

theorem magnitudeBits_lt (h : x.isFinite = true) : x.magnitudeBits < infinityBits :=
  (Nat.div_lt_iff_lt_mul (by decide)).1 (of_decide_eq_true h)

theorem isZero_iff : x.isZero = true ↔ x.significand = 0 := by
  have hscale : 0 < x.scale → hiddenBit ≤ x.significand := hiddenBit_le_significand
  rw [isZero, beq_iff_eq, magnitudeBits_eq]
  simp only [hiddenBit] at hscale ⊢
  omega

theorem ofParts_magnitudeBits (x : Binary64) : ofParts x.negative x.magnitudeBits = x := by
  obtain ⟨bits⟩ := x
  have hlt : bits.toNat < 2 * signBit := bits.toNat_lt
  have hbits : bits.toNat % signBit + (if signBit ≤ bits.toNat then signBit else 0) =
      bits.toNat := by
    split <;> simp only [signBit] at * <;> omega
  simp only [ofParts, negative, magnitudeBits, decide_eq_true_eq, hbits]
  rw [UInt64.ofNat_toNat]

/-! ## the natural next to a quotient -/

/-- the natural that is next, by twice the distances; one in the middle is next if it is even -/
theorem roundHalfEven_of_le {n : Nat} (hden : 0 < den) (hlow : 2 * (n * den) ≤ 2 * num + den)
    (hhigh : 2 * num ≤ 2 * (n * den) + den)
    (hodd : n % 2 = 1 → 2 * (n * den) < 2 * num + den ∧ 2 * num < 2 * (n * den) + den) :
    roundHalfEven num den = n := by
  have hnum : num / den * den + num % den = num := Nat.div_add_mod' num den
  have hmod : num % den < den := Nat.mod_lt num hden
  rw [roundHalfEven]
  generalize num / den = q at *
  generalize num % den = r at *
  -- the quotient is `n`, or the natural before it
  have hq : q = n ∨ n = q + 1 := by
    have h₁ : q < n + 1 := by
      refine Nat.lt_of_mul_lt_mul_right (a := den) ?_
      rw [Nat.add_mul]
      omega
    have h₂ : n < q + 2 := by
      refine Nat.lt_of_mul_lt_mul_right (a := den) ?_
      rw [Nat.add_mul]
      omega
    omega
  rcases hq with rfl | rfl
  · split
    · rfl
    split
    · omega
    · omega
  · rw [Nat.add_mul, Nat.one_mul] at *
    split
    · omega
    split
    · rfl
    · omega

theorem roundHalfEven_eq {n : Nat} (hden : 0 < den) (hlow : (n : ℚ) - 1 / 2 ≤ num / den)
    (hhigh : (num : ℚ) / den ≤ n + 1 / 2)
    (hodd : n % 2 = 1 → (n : ℚ) - 1 / 2 < num / den ∧ (num : ℚ) / den < n + 1 / 2) :
    roundHalfEven num den = n := by
  have hden' : (0 : ℚ) < den := Nat.cast_pos.2 hden
  refine roundHalfEven_of_le hden ?_ ?_ fun h => ⟨?_, ?_⟩
  · rw [le_div_iff₀ hden'] at hlow
    have h : 2 * ((n : ℚ) * den) ≤ 2 * num + den := by linarith
    exact_mod_cast h
  · rw [div_le_iff₀ hden'] at hhigh
    have h : 2 * (num : ℚ) ≤ 2 * (n * den) + den := by linarith
    exact_mod_cast h
  · have hlt := (hodd h).1
    rw [lt_div_iff₀ hden'] at hlt
    have h : 2 * ((n : ℚ) * den) < 2 * num + den := by linarith
    exact_mod_cast h
  · have hlt := (hodd h).2
    rw [div_lt_iff₀ hden'] at hlt
    have h : 2 * (num : ℚ) < 2 * (n * den) + den := by linarith
    exact_mod_cast h

/-! ## the powers of two around a quotient -/

theorem powTwoLe_iff {e : Int} (hden : 0 < den) :
    powTwoLe e num den = true ↔ (2 : ℚ) ^ e ≤ num / den := by
  rw [powTwoLe, decide_eq_true_eq, Nat.shiftLeft_eq, Nat.shiftLeft_eq,
    ← zpow_le_div_iff two_pos e hden, Nat.cast_two]

theorem two_zpow_binaryExponent_le (hnum : 0 < num) (hden : 0 < den) :
    (2 : ℚ) ^ binaryExponent num den ≤ num / den := by
  simp only [binaryExponent]
  split
  · exact (powTwoLe_iff hden).1 ‹_›
  · exact_mod_cast zpow_le_div two_pos (Nat.log2_self_le hnum.ne') hden Nat.lt_log2_self

theorem lt_two_zpow_binaryExponent (hden : 0 < den) :
    (num : ℚ) / den < 2 ^ (binaryExponent num den + 1) := by
  simp only [binaryExponent]
  split
  · exact_mod_cast div_lt_zpow two_pos (Nat.lt_log2_self (n := num)) (Nat.log2_self_le hden.ne')
  · rename_i h
    rw [powTwoLe_iff hden, not_le] at h
    rwa [sub_add_cancel]

/-- the power of two below a quotient is the only one -/
theorem binaryExponent_eq {e : Int} (hnum : 0 < num) (hden : 0 < den)
    (hlow : (2 : ℚ) ^ e ≤ num / den) (hhigh : (num : ℚ) / den < 2 ^ (e + 1)) :
    binaryExponent num den = e := by
  have h₁ := two_zpow_binaryExponent_le hnum hden
  have h₂ : (num : ℚ) / den < 2 ^ (binaryExponent num den + 1) := lt_two_zpow_binaryExponent hden
  have h₃ : binaryExponent num den < e + 1 :=
    (zpow_lt_zpow_iff_right₀ one_lt_two).1 (h₁.trans_lt hhigh)
  have h₄ : e < binaryExponent num den + 1 :=
    (zpow_lt_zpow_iff_right₀ one_lt_two).1 (hlow.trans_lt h₂)
  omega

/-! ## what is rounded to a number -/

/-- how far below a number its interval goes, in quarters of its unit -/
def stepsBelow (x : Binary64) : Nat := if x.significand = hiddenBit ∧ 0 < x.scale then 1 else 2

/-- a rational that is rounded to `x`: between the middles to the neighbours, which count themselves
if the significand is even -/
structure Near (x : Binary64) (v : ℚ) : Prop where
  low : (x.significand : ℚ) - x.stepsBelow / 4 ≤ v / x.unit
  high : v / x.unit ≤ x.significand + 1 / 2
  odd : x.significand % 2 = 1 →
    (x.significand : ℚ) - x.stepsBelow / 4 < v / x.unit ∧ v / x.unit < x.significand + 1 / 2

theorem near_of_lt (hlow : (x.significand : ℚ) - x.stepsBelow / 4 < v / x.unit)
    (hhigh : v / x.unit < x.significand + 1 / 2) : x.Near v :=
  ⟨hlow.le, hhigh.le, fun _ => ⟨hlow, hhigh⟩⟩

theorem stepsBelow_le (x : Binary64) : x.stepsBelow ≤ 2 := by
  rw [stepsBelow]
  split <;> decide

theorem ofRatio_eq {scale m : Nat} (hnum : 0 < num)
    (hscale : (max (binaryExponent num den - 52) (-1074) + 1074).toNat = scale)
    (hround : roundHalfEven (num <<< (1074 - scale)) (den <<< (scale - 1074)) = m)
    (hlt : scale * hiddenBit + m < infinityBits) :
    ofRatio negative num den = ofParts negative (scale * hiddenBit + m) := by
  simp only [ofRatio, if_neg hnum.ne', hscale, hround, if_pos hlt]

theorem shifted_div (place scale : Nat) :
    ((num <<< (place - scale) : Nat) : ℚ) / ((den <<< (scale - place) : Nat) : ℚ) =
      num / den / 2 ^ ((scale : Int) - place) := by
  have he := zpow_eq_div two_pos ((scale : Int) - place)
  have h₁ : ((scale : Int) - place).toNat = scale - place := by omega
  have h₂ : (-((scale : Int) - place)).toNat = place - scale := by omega
  rw [Nat.cast_two, h₁, h₂] at he
  rw [he, Nat.shiftLeft_eq, Nat.shiftLeft_eq, Nat.cast_mul, Nat.cast_mul]
  field_simp

theorem shifted_pos (hden : 0 < den) (k : Nat) : 0 < den <<< k := by
  rw [Nat.shiftLeft_eq]
  exact Nat.mul_pos hden (Nat.two_pow_pos k)

section
variable {u : ℚ} (hnum : 0 < num) (hden : 0 < den) (hu : (num : ℚ) / den = u * x.unit)
include hnum hden hu

theorem binaryExponent_of_unit {k : Int} (hlow : (2 : ℚ) ^ k ≤ u) (hhigh : u < 2 ^ (k + 1)) :
    binaryExponent num den = (x.scale : Int) - 1074 + k := by
  have hpow (k : Int) : (2 : ℚ) ^ ((x.scale : Int) - 1074 + k) = 2 ^ k * x.unit := by
    rw [zpow_add₀ two_ne_zero, mul_comm]
    rfl
  refine binaryExponent_eq hnum hden ?_ ?_
  · rw [hpow, hu]
    exact mul_le_mul_of_nonneg_right hlow x.unit_pos.le
  · rw [add_assoc, hpow, hu]
    exact mul_lt_mul_of_pos_right hhigh x.unit_pos

/-- a quotient with as many digits as the significand is rounded at the same scale -/
theorem scale_of_unit (hlow : 0 < x.scale → (hiddenBit : ℚ) ≤ u) (hhigh : u < 2 * hiddenBit) :
    (max (binaryExponent num den - 52) (-1074) + 1074).toNat = x.scale := by
  have h52 : (2 : ℚ) ^ (52 : Int) = hiddenBit := by norm_num [hiddenBit]
  have h53 : (2 : ℚ) ^ ((52 : Int) + 1) = 2 * hiddenBit := by norm_num [hiddenBit]
  rcases Nat.eq_zero_or_pos x.scale with hscale | hscale
  · have hsmall : (2 : ℚ) ^ binaryExponent num den < 2 ^ (-1021 : Int) := by
      refine (two_zpow_binaryExponent_le hnum hden).trans_lt ?_
      have hunit : (2 : ℚ) ^ ((52 : Int) + 1) * x.unit = 2 ^ (-1021 : Int) := by
        rw [unit, hscale, ← zpow_add₀ two_ne_zero]
        norm_num
      rw [hu, ← hunit, h53]
      exact mul_lt_mul_of_pos_right hhigh x.unit_pos
    have := (zpow_lt_zpow_iff_right₀ one_lt_two).1 hsmall
    omega
  · have he := binaryExponent_of_unit hnum hden hu (h52.le.trans (hlow hscale)) (h53 ▸ hhigh)
    omega

/-- just below a power of two the scale is smaller, and the quotient is rounded up to the power -/
theorem ofRatio_below_power (hx : x.isFinite = true) (hm : x.significand = hiddenBit)
    (hscale : 0 < x.scale) (hlow : (hiddenBit : ℚ) - 1 / 4 ≤ u) (hhigh : u < hiddenBit) :
    ofRatio negative num den = ofParts negative x.magnitudeBits := by
  have hlt := magnitudeBits_lt hx
  have h51 : (2 : ℚ) ^ (51 : Int) = hiddenBit / 2 := by norm_num [hiddenBit]
  have h52 : (2 : ℚ) ^ ((51 : Int) + 1) = hiddenBit := by norm_num [hiddenBit]
  have hbig : (2 : ℚ) ≤ hiddenBit := by norm_num [hiddenBit]
  have hexponent := binaryExponent_of_unit hnum hden hu (h51.le.trans (by linarith)) (h52 ▸ hhigh)
  have hratio : ((num <<< (1074 - (x.scale - 1)) : Nat) : ℚ) /
      ((den <<< (x.scale - 1 - 1074) : Nat) : ℚ) = 2 * u := by
    have hunit : (2 : ℚ) ^ (((x.scale - 1 : Nat) : Int) - (1074 : Nat)) = x.unit / 2 := by
      rw [Nat.cast_sub hscale, sub_right_comm, zpow_sub₀ two_ne_zero]
      norm_num [unit]
    rw [shifted_div, hunit, hu]
    field_simp [x.unit_pos.ne']
  have hmagnitude : x.magnitudeBits = (x.scale - 1) * hiddenBit + 2 * hiddenBit := by
    obtain ⟨k, hk⟩ := Nat.exists_eq_succ_of_ne_zero hscale.ne'
    rw [magnitudeBits_eq, hm, hk, Nat.succ_sub_one, Nat.succ_mul]
    omega
  rw [hmagnitude] at hlt ⊢
  refine ofRatio_eq hnum (by omega) (roundHalfEven_eq (shifted_pos hden _) ?_ ?_ ?_) hlt
  · rw [hratio]
    push_cast
    linarith
  · rw [hratio]
    push_cast
    linarith
  · exact fun h => absurd h (by decide)

end

/-- **What is near a number is rounded to it**, whatever its sign. -/
theorem ofRatio_of_near (hx : x.isFinite = true) (hm : 0 < x.significand) (hden : 0 < den)
    (h : x.Near (num / den)) : ofRatio negative num den = ofParts negative x.magnitudeBits := by
  have hm' : (1 : ℚ) ≤ x.significand := mod_cast hm
  have hsteps : (x.stepsBelow : ℚ) ≤ 2 := mod_cast x.stepsBelow_le
  have htop : (x.significand : ℚ) + 1 ≤ 2 * hiddenBit := mod_cast x.significand_lt
  obtain ⟨hlow, hhigh, hodd⟩ := h
  -- the quotient in units of the last place
  generalize hu : (num : ℚ) / den / x.unit = u at hlow hhigh hodd
  have hv : (num : ℚ) / den = u * x.unit := by
    rw [← hu, div_mul_cancel₀ _ x.unit_pos.ne']
  have hnum : 0 < num := by
    have hpos : (0 : ℚ) < num / den := hv ▸ mul_pos (by linarith) x.unit_pos
    rw [lt_div_iff₀ (Nat.cast_pos.2 hden), zero_mul] at hpos
    exact_mod_cast hpos
  by_cases hbelow : 0 < x.scale ∧ u < hiddenBit
  · obtain ⟨hscale, huh⟩ := hbelow
    -- only the interval of a power of two goes below it
    have hm_eq : x.significand = hiddenBit := by
      by_contra hne
      have hnext : (hiddenBit : ℚ) + 1 ≤ x.significand :=
        mod_cast Nat.lt_of_le_of_ne (hiddenBit_le_significand hscale) (Ne.symm hne)
      linarith
    have hsteps_eq : (x.stepsBelow : ℚ) = 1 := by
      rw [stepsBelow, if_pos ⟨hm_eq, hscale⟩, Nat.cast_one]
    rw [hm_eq, hsteps_eq] at hlow
    exact ofRatio_below_power hnum hden hv hx hm_eq hscale hlow huh
  · have hhidden (hscale : 0 < x.scale) : (hiddenBit : ℚ) ≤ u := not_lt.1 fun h => hbelow ⟨hscale, h⟩
    have hscale := scale_of_unit hnum hden hv hhidden (by linarith)
    have hratio : ((num <<< (1074 - x.scale) : Nat) : ℚ) / ((den <<< (x.scale - 1074) : Nat) : ℚ) =
        u := (shifted_div 1074 x.scale).trans hu
    have hlt := magnitudeBits_lt hx
    rw [magnitudeBits_eq] at hlt ⊢
    refine ofRatio_eq hnum hscale (roundHalfEven_eq (shifted_pos hden _) ?_ ?_ ?_) hlt
    · rw [hratio]
      linarith
    · rw [hratio]
      exact hhigh
    · rw [hratio]
      exact fun h => ⟨by linarith [(hodd h).1], (hodd h).2⟩

end Binary64

namespace Decimal

section
variable {n num den : Nat} {a q : ℚ} (hden : 0 < den) (hn : (n : ℚ) = 4 * a)
  (hratio : (num : ℚ) / den = 4 * q)
include hden hn hratio

/-- a bound for a quotient, both in quarters -/
theorem mul_le_iff_of_quarters : n * den ≤ num ↔ a ≤ q := by
  have hden' : (0 : ℚ) < den := Nat.cast_pos.2 hden
  rw [← Nat.cast_le (α := ℚ), Nat.cast_mul, ← le_div_iff₀ hden', hn, hratio,
    mul_le_mul_iff_of_pos_left four_pos]

theorem le_mul_iff_of_quarters : num ≤ n * den ↔ q ≤ a := by
  have hden' : (0 : ℚ) < den := Nat.cast_pos.2 hden
  rw [← Nat.cast_le (α := ℚ), Nat.cast_mul, ← div_le_iff₀ hden', hn, hratio,
    mul_le_mul_iff_of_pos_left four_pos]

end

theorem roundsTo_eq (x : Binary64) (num den : Nat) : roundsTo x num den =
    if x.significand % 2 = 0 then
      decide ((4 * x.significand - x.stepsBelow) * den <<< (x.scale - 1076) ≤
        num <<< (1076 - x.scale)) &&
      decide (num <<< (1076 - x.scale) ≤ (4 * x.significand + 2) * den <<< (x.scale - 1076))
    else
      decide ((4 * x.significand - x.stepsBelow) * den <<< (x.scale - 1076) <
        num <<< (1076 - x.scale)) &&
      decide (num <<< (1076 - x.scale) < (4 * x.significand + 2) * den <<< (x.scale - 1076)) :=
  rfl

/-- the test for the interval of a number is exact -/
theorem roundsTo_iff_near {x : Binary64} {num den : Nat} (hm : 0 < x.significand) (hden : 0 < den) :
    roundsTo x num den = true ↔ x.Near (num / den) := by
  have hunit : (2 : ℚ) ^ ((x.scale : Int) - (1076 : Nat)) = x.unit / 4 := by
    have he : (x.scale : Int) - (1076 : Nat) = (x.scale : Int) - 1074 - 2 := by omega
    rw [he, zpow_sub₀ two_ne_zero]
    norm_num [Binary64.unit]
  have hratio : ((num <<< (1076 - x.scale) : Nat) : ℚ) / ((den <<< (x.scale - 1076) : Nat) : ℚ) =
      4 * (num / den / x.unit) := by
    rw [Binary64.shifted_div, hunit]
    field_simp
  -- both ends of the interval are naturals in quarters of the unit
  have hsteps : x.stepsBelow ≤ 4 * x.significand := by
    have := x.stepsBelow_le
    omega
  have hlow : ((4 * x.significand - x.stepsBelow : Nat) : ℚ) =
      4 * (x.significand - x.stepsBelow / 4) := by
    rw [Nat.cast_sub hsteps]
    push_cast
    ring
  have hhigh : ((4 * x.significand + 2 : Nat) : ℚ) = 4 * (x.significand + 1 / 2) := by
    push_cast
    ring
  have hshift := Binary64.shifted_pos hden (x.scale - 1076)
  rw [roundsTo_eq]
  split
  · rename_i heven
    rw [Bool.and_eq_true, decide_eq_true_eq, decide_eq_true_eq,
      mul_le_iff_of_quarters hshift hlow hratio, le_mul_iff_of_quarters hshift hhigh hratio]
    exact ⟨fun ⟨hl, hh⟩ => ⟨hl, hh, fun hodd => by omega⟩, fun h => ⟨h.low, h.high⟩⟩
  · rename_i hodd
    rw [Bool.and_eq_true, decide_eq_true_eq, decide_eq_true_eq,
      lt_iff_lt_of_le_iff_le (le_mul_iff_of_quarters hshift hlow hratio),
      lt_iff_lt_of_le_iff_le (mul_le_iff_of_quarters hshift hhigh hratio)]
    exact ⟨fun h => ⟨h.1.le, h.2.le, fun _ => h⟩, fun h => h.odd (by omega)⟩

end Decimal

end PromptDispatch

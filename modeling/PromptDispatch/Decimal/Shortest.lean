import PromptDispatch.Decimal.Binary64

/-!
# Shortest decimals

`shortest x` is a decimal with the fewest digits that reads back as the positive finite number `x`,
and of those the nearest to `x`.
-/

namespace PromptDispatch

/-- the decimal `0.d₁d₂… * 10 ^ (exponent + 1)`: the first digit stands at `10 ^ exponent` -/
structure Decimal where
  digits : List Char
  exponent : Int
  deriving DecidableEq, Repr

namespace Decimal

/-- the greatest `e` with `10 ^ e ≤ num / den`, for positive `num` and `den` -/
def exponentOf (num den : Nat) : Int :=
  let e : Int := (Nat.toDigits 10 num).length - (Nat.toDigits 10 den).length
  if Nat.pow 10 e.toNat * den ≤ num * Nat.pow 10 (-e).toNat then e else e - 1

/-- the interval of reals that round to `x`, as quarter steps around `4 * significand` -/
def roundsTo (x : Binary64) (num den : Nat) : Bool :=
  let m := x.significand
  let steps := if m = Binary64.hiddenBit ∧ 0 < x.scale then 1 else 2
  -- compare `num / den` with `(4 * m ± …) * 2 ^ (scale - 1076)`
  let num := num <<< (1076 - x.scale)
  let den := den <<< (x.scale - 1076)
  let low := (4 * m - steps) * den
  let high := (4 * m + 2) * den
  if m % 2 = 0 then low ≤ num && num ≤ high else low < num && num < high

/-- the decimals of a grid, with step `10 ^ k`, next to `x` that read back as `x`; the nearer -/
def onGrid (x : Binary64) (k : Int) : Option Nat :=
  let (num, den) := x.ratio
  let num := num * Nat.pow 10 (-k).toNat
  let den := den * Nat.pow 10 k.toNat
  let below := num / den
  let reads (d : Nat) : Bool :=
    0 < d && roundsTo x (d * Nat.pow 10 k.toNat) (Nat.pow 10 (-k).toNat)
  match reads below, reads (below + 1) with
  | true, true => some (Binary64.roundHalfEven num den)
  | true, false => some below
  | false, true => some (below + 1)
  | false, false => none

/-- the first grid with a hit, from the one with `17 - left` digits on -/
def search (x : Binary64) (top : Int) : Nat → Nat × Int
  | 0 => ((onGrid x (top - 16)).getD 0, top - 16)
  | left + 1 =>
    let k := top - (16 - (left + 1 : Nat))
    match onGrid x k with
    | some d => (d, k)
    | none => search x top left

def stripZeros (s : List Char) : List Char := (s.reverse.dropWhile (· = '0')).reverse

/-- the fewest digits that read back, for a positive finite number -/
def shortest (x : Binary64) : Decimal :=
  let top := exponentOf x.ratio.1 x.ratio.2
  let (d, k) := search x top 16
  let digits := Nat.toDigits 10 d
  ⟨stripZeros digits, k + digits.length - 1⟩

end Decimal

end PromptDispatch

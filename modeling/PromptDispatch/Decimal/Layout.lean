import PromptDispatch.Decimal.Shortest

/-!
# Layouts of a number's text

A `Layout` says how the shortest digits of a number are written: which exponents are positional,
whether a whole number keeps `.0`, whether a positive exponent has its sign.
-/

namespace PromptDispatch

structure Layout where
  /-- the exponents written positionally, both ends included; `none` for all -/
  positional : Option (Int × Int)
  /-- a whole number keeps one place -/
  keepsPlace : Bool
  /-- a positive exponent has its sign -/
  signsExponent : Bool
  infinity : String
  nan : String

namespace Layout

/-- positional digits: the point comes after `exponent + 1` of them -/
def positionalText (l : Layout) (d : Decimal) : List Char :=
  if d.exponent < 0 then
    ['0', '.'] ++ List.replicate (-d.exponent - 1).toNat '0' ++ d.digits
  else
    let n := d.exponent.toNat + 1
    if d.digits.length ≤ n then
      d.digits ++ List.replicate (n - d.digits.length) '0' ++ (if l.keepsPlace then ['.', '0'] else [])
    else d.digits.take n ++ '.' :: d.digits.drop n

/-- the sign of an exponent, as far as it is written -/
def exponentSign (l : Layout) (d : Decimal) : List Char :=
  if d.exponent < 0 then ['-'] else if l.signsExponent then ['+'] else []

/-- one digit, a point and the others if there are others, and the exponent -/
def scientificText (l : Layout) (d : Decimal) : List Char :=
  d.digits.take 1 ++ (if d.digits.length ≤ 1 then [] else '.' :: d.digits.drop 1) ++
    'e' :: (l.exponentSign d ++ Nat.toDigits 10 d.exponent.natAbs)

def digitsText (l : Layout) (d : Decimal) : List Char :=
  match l.positional with
  | none => l.positionalText d
  | some (lo, hi) =>
    if lo ≤ d.exponent ∧ d.exponent ≤ hi then l.positionalText d else l.scientificText d

def text (l : Layout) (x : Binary64) : List Char :=
  if x.isNaN then l.nan.toList
  else
    (if x.negative then ['-'] else []) ++
      if x.isInfinite then l.infinity.toList
      else if x.isZero then '0' :: (if l.keepsPlace then ['.', '0'] else [])
      else l.digitsText (Decimal.shortest x)

/-- every digit positional, a whole number without a point -/
def plain : Layout := ⟨none, false, false, "inf", "NaN"⟩

end Layout

end PromptDispatch

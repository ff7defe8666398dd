/-!
# Binary64 numbers

A number is its 64 bits.  `ofRatio` rounds a quotient of naturals to the nearest number, a tie going
to the even one; sums of digits, products and quotients of numbers are exact quotients rounded once.
-/

namespace PromptDispatch

/-- a binary64 number, by its bits -/
structure Binary64 where
  bits : UInt64
  deriving DecidableEq, Repr, Inhabited

namespace Binary64

/-! ## parts -/

/-- the highest bit -/
def signBit : Nat := 0x8000000000000000

/-- the bit of a normal significand that is not stored -/
def hiddenBit : Nat := 0x10000000000000

/-- the bits of infinity: the exponent that no finite number has -/
def infinityBits : Nat := 2047 * hiddenBit

def negative (x : Binary64) : Bool := decide (signBit ≤ x.bits.toNat)

/-- the bits without the sign -/
def magnitudeBits (x : Binary64) : Nat := x.bits.toNat % signBit

def exponentField (x : Binary64) : Nat := x.magnitudeBits / hiddenBit

def fraction (x : Binary64) : Nat := x.magnitudeBits % hiddenBit

def isFinite (x : Binary64) : Bool := x.exponentField < 2047

def isInfinite (x : Binary64) : Bool := x.exponentField == 2047 && x.fraction == 0

def isNaN (x : Binary64) : Bool := x.exponentField == 2047 && x.fraction != 0

def isZero (x : Binary64) : Bool := x.magnitudeBits == 0

/-- a finite number is `significand * 2 ^ (scale - 1074)` up to its sign -/
def significand (x : Binary64) : Nat :=
  if x.exponentField = 0 then x.fraction else hiddenBit + x.fraction

def scale (x : Binary64) : Nat := x.exponentField - 1

/-- numerator and denominator of a finite number, up to its sign -/
def ratio (x : Binary64) : Nat × Nat :=
  (x.significand <<< (x.scale - 1074), 1 <<< (1074 - x.scale))

def ofParts (negative : Bool) (magnitude : Nat) : Binary64 :=
  ⟨UInt64.ofNat (magnitude + if negative then signBit else 0)⟩

def infinity (negative : Bool) : Binary64 := ofParts negative infinityBits

def nan : Binary64 := ofParts false (infinityBits + hiddenBit / 2)

def neg (x : Binary64) : Binary64 := ofParts (!x.negative) x.magnitudeBits

/-! ## rounding -/

/-- the natural nearest to `num / den`; a half goes to the even neighbour -/
def roundHalfEven (num den : Nat) : Nat :=
  let q := num / den
  let r := num % den
  if 2 * r < den then q
  else if den < 2 * r then q + 1
  else q + q % 2

/-- whether `2 ^ e ≤ num / den` -/
def powTwoLe (e : Int) (num den : Nat) : Bool :=
  decide (den <<< e.toNat ≤ num <<< (-e).toNat)

/-- the greatest `e` with `2 ^ e ≤ num / den`, for positive `num` and `den` -/
def binaryExponent (num den : Nat) : Int :=
  let e : Int := num.log2 - den.log2
  if powTwoLe e num den then e else e - 1

/-- the number nearest to `num / den` -/
def ofRatio (negative : Bool) (num den : Nat) : Binary64 :=
  if num = 0 then ofParts negative 0
  else
    let e := binaryExponent num den
    let scale := (max (e - 52) (-1074) + 1074).toNat
    let m := roundHalfEven (num <<< (1074 - scale)) (den <<< (scale - 1074))
    let magnitude := scale * hiddenBit + m
    if magnitude < infinityBits then ofParts negative magnitude else infinity negative

def ofNat (n : Nat) : Binary64 := ofRatio false n 1

/-- the product of finite numbers -/
def mul (x y : Binary64) : Binary64 :=
  ofRatio (x.negative != y.negative) (x.ratio.1 * y.ratio.1) (x.ratio.2 * y.ratio.2)

/-- the quotient of finite numbers; the divisor is not zero -/
def div (x y : Binary64) : Binary64 :=
  ofRatio (x.negative != y.negative) (x.ratio.1 * y.ratio.2) (x.ratio.2 * y.ratio.1)

/-- the sum of two finite numbers that are not negative -/
def add (x y : Binary64) : Binary64 :=
  ofRatio false (x.ratio.1 * y.ratio.2 + y.ratio.1 * x.ratio.2) (x.ratio.2 * y.ratio.2)

/-- the number nearest to `digits * 10 ^ exponent`; past 400 places it is infinite or zero -/
def ofDecimal (negative : Bool) (digits : Nat) (exponent : Int) : Binary64 :=
  if digits = 0 then ofParts negative 0
  else
    let places : Int := (Nat.toDigits 10 digits).length
    if 400 < exponent + places then infinity negative
    else if exponent + places < -400 then ofParts negative 0
    else ofRatio negative (digits * Nat.pow 10 exponent.toNat) (Nat.pow 10 (-exponent).toNat)

end Binary64

end PromptDispatch

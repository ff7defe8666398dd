import PromptDispatch.Json.Value

/-!
# Numerals: from written digits to numbers

A numeral without a point and an exponent that 64 bits hold is an integer; `-0` and all others are
binary64 numbers.  The significand of those takes the leading digits that 64 bits hold; it is then
multiplied or divided once by a power of ten (`scaleTen`), and a numeral that gets too large is none.
-/

namespace PromptDispatch.Numeral

/-! ## digits -/

def digitValue (c : Char) : Nat := c.toNat - '0'.toNat

/-- takes digits while the number they make stays below `2 ^ 64`; the digits left over -/
def absorb (n : Nat) : List Char → Nat × List Char
  | [] => (n, [])
  | c :: r =>
    if n * 10 + digitValue c < UInt64.size then absorb (n * 10 + digitValue c) r else (n, c :: r)

/-- the number that digits make -/
def ofDigits (s : List Char) : Nat := s.foldl (fun n c => n * 10 + digitValue c) 0

/-! ## scaling -/

/-- `10 ^ k` as a binary64 number -/
def powTen (k : Nat) : Binary64 := .ofNat (Nat.pow 10 k)

/-- `x * 10 ^ e` for a negative `e`: one division, after at most `steps` divisions by `10 ^ 308` -/
def scaleDown : Nat → Binary64 → Int → Binary64
  | 0, x, _ => x
  | steps + 1, x, e =>
    if -308 ≤ e then x.div (powTen (-e).toNat)
    else if x.isZero then x
    else scaleDown steps (x.div (powTen 308)) (e + 308)

/-- `x * 10 ^ e` for an `x` below `2 ^ 64`, of which nothing is left after three divisions -/
def scaleTen (x : Binary64) (e : Int) : Option Binary64 :=
  if e < 0 then some (scaleDown 4 x e)
  else if x.isZero then some x
  else if 308 < e then none
  else
    let y := x.mul (powTen e.toNat)
    if y.isInfinite then none else some y

/-! ## numerals -/

/-- the parts of a numeral -/
structure Parts where
  negative : Bool
  whole : List Char
  /-- the digits after the point -/
  places : List Char
  /-- the sign (`true` for minus) and the digits of the exponent -/
  exponent : Option (Bool × List Char)
  /-- written with digits only -/
  plain : Bool

def Parts.ofExponent : List Char → Bool × List Char
  | '-' :: r => (true, r)
  | '+' :: r => (false, r)
  | r => (false, r)

/-- the parts of a text that is a numeral -/
def Parts.ofText (s : List Char) : Parts :=
  let negative := s.head? = some '-'
  let s := if negative then s.drop 1 else s
  let whole := s.takeWhile Char.isDigit
  let s := s.dropWhile Char.isDigit
  let places := if s.head? = some '.' then (s.drop 1).takeWhile Char.isDigit else []
  let rest := if s.head? = some '.' then (s.drop 1).dropWhile Char.isDigit else s
  { negative, whole, places
    exponent := if rest.isEmpty then none else some (ofExponent (rest.drop 1))
    plain := s.isEmpty }

/-- the integer of a plain numeral; none for `-0` and for one that 64 bits do not hold -/
def Parts.whole? (p : Parts) : Option Whole :=
  if p.negative && ofDigits p.whole == 0 then none
  else Whole.ofInt? (if p.negative then -(ofDigits p.whole : Int) else ofDigits p.whole)

/-- the binary64 number of a numeral; none if it is too large -/
def Parts.float? (p : Parts) : Option Binary64 :=
  let (n, dropped) := absorb 0 p.whole
  let (n, left) := absorb n p.places
  let base : Int := dropped.length - (p.places.length - left.length : Nat)
  let size : Option Binary64 :=
    match p.exponent with
    | none => scaleTen (.ofNat n) base
    | some (minus, e) =>
      if 0x80000000 ≤ ofDigits e then
        if n ≠ 0 ∧ minus = false then none else some (.ofNat 0)
      else scaleTen (.ofNat n) (base + if minus then -(ofDigits e : Int) else ofDigits e)
  size.map fun x => if p.negative then x.neg else x

/-- the number of a numeral; none if it is too large -/
def number? (s : List Char) : Option Number :=
  let p := Parts.ofText s
  match (if p.plain then p.whole? else none) with
  | some n => some (.int n)
  | none => p.float?.map .float

end PromptDispatch.Numeral

import PromptDispatch.Machine.Escapes

/-!
# Formatted output

A format is written again while there are arguments left that it has not used; a conversion without
an argument takes an empty text or zero.
-/

namespace PromptDispatch.Machine

/-- a conversion of a format -/
structure Conversion where
  leftAligned : Bool := false
  zeroPadded : Bool := false
  signed : Bool := false
  width : Nat := 0
  precision : Option Nat := none
  letter : Char := 's'

namespace Conversion

def flags (c : Conversion) : List Char → Conversion × List Char
  | '-' :: r => flags { c with leftAligned := true } r
  | '0' :: r => flags { c with zeroPadded := true } r
  | '+' :: r => flags { c with signed := true } r
  | ' ' :: r | '#' :: r => flags c r
  | r => (c, r)

/-- the conversion after a `%` -/
def read? (s : List Char) : Option (Conversion × List Char) :=
  let (c, s) := flags {} s
  let (width, s) := EscapeDialect.digits 10 20 0 s
  let (precision, s) :=
    match s with
    | '.' :: r =>
      let (p, r) := EscapeDialect.digits 10 20 0 r
      (some p, r)
    | _ => (none, s)
  match s with
  | [] => none
  | letter :: r => some ({ c with width, precision, letter }, r)

def pad (c : Conversion) (fill : UInt8) (s : List UInt8) : List UInt8 :=
  let space := List.replicate (c.width - s.length) fill
  if c.leftAligned then s ++ List.replicate (c.width - s.length) 32 else space ++ s

/-- an argument as an integer; none if it is no number -/
def integer? (arg : String) : Option Int :=
  let (negative, s) :=
    match arg.toList with
    | '-' :: r => (true, r)
    | '+' :: r => (false, r)
    | r => (false, r)
  let n :=
    match s with
    | '\'' :: c :: _ | '"' :: c :: _ => some c.toNat
    | '0' :: 'x' :: r => r.foldlM (fun n c => (EscapeDialect.digitIn? 16 c).map (n * 16 + ·)) 0
    | '0' :: r => r.foldlM (fun n c => (EscapeDialect.digitIn? 8 c).map (n * 8 + ·)) 0
    | [] => none
    | r => r.foldlM (fun n c => (EscapeDialect.digitIn? 10 c).map (n * 10 + ·)) 0
  n.map fun n => if negative then -n else n

def signText (c : Conversion) (n : Int) : List Char :=
  if n < 0 then ['-'] else if c.signed then ['+'] else []

def integerText (c : Conversion) (n : Int) : List UInt8 :=
  let base := if c.letter = 'o' then 8 else if c.letter ∈ ['x', 'X'] then 16 else 10
  let value := if base = 10 then n.natAbs else (n % UInt64.size).toNat
  let digits := Nat.toDigits base value
  let digits := if c.letter = 'X' then digits.map Char.toUpper else digits
  let digits := List.replicate (c.precision.getD 0 - digits.length) '0' ++ digits
  let sign := if base = 10 then c.signText n else []
  if c.zeroPadded && !c.leftAligned && c.precision.isNone then
    Text.encode (sign ++ List.replicate (c.width - sign.length - digits.length) '0' ++ digits)
  else c.pad 32 (Text.encode (sign ++ digits))

end Conversion

/-- what has been written, the arguments that are left, and what is wrong -/
structure Printf where
  bytes : List UInt8 := []
  args : List String
  /-- the arguments that are no numbers -/
  wrong : List String := []
  stopped : Bool := false

namespace Printf

def write (p : Printf) (b : List UInt8) : Printf := { p with bytes := p.bytes ++ b }

def convert (p : Printf) (c : Conversion) : Printf :=
  if c.letter = '%' then p.write [37]
  else
    let arg := p.args.head?
    let p := { p with args := p.args.drop 1 }
    let text := arg.getD ""
    let cut (b : List UInt8) := (c.precision.map (b.take ·)).getD b
    match c.letter with
    | 's' => p.write (c.pad 32 (cut (Text.encode text.toList)))
    | 'c' => p.write (c.pad 32 ((Text.encode text.toList).take 1))
    | 'b' =>
      let (b, stopped) :=
        EscapeDialect.bytes { leadingZero := true, stops := true } text.toList
      { p.write (c.pad 32 (cut b)) with stopped }
    | _ =>
      match arg with
      | none => p.write (c.integerText 0)
      | some arg =>
        match Conversion.integer? arg with
        | some n => p.write (c.integerText n)
        | none => { p.write (c.integerText 0) with wrong := p.wrong ++ [arg] }

/-- the format once -/
def pass (d : EscapeDialect) : Nat → List Char → Printf → Printf
  | 0, _, p => p
  | _, [], p => p
  | fuel + 1, x :: r, p =>
    if p.stopped then p
    else if x = '%' then
      match Conversion.read? r with
      | none => p.write [37]
      | some (c, r) => pass d fuel r (p.convert c)
    else if x = '\\' then
      match d.one r with
      | none => { p with stopped := true }
      | some (b, r) => pass d fuel r (p.write b)
    else pass d fuel r (p.write (Text.encode [x]))

/-- the format again and again while it uses arguments -/
def passes (d : EscapeDialect) (format : List Char) : Nat → Printf → Printf
  | 0, p => p
  | fuel + 1, p =>
    let next := pass d (format.length + 1) format p
    if next.stopped || next.args.isEmpty || next.args.length = p.args.length then next
    else passes d format fuel next

def run (d : EscapeDialect) (format : String) (args : List String) : Printf :=
  passes d format.toList (args.length + 1) { args }

end Printf

end PromptDispatch.Machine

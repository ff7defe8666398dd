import PromptDispatch.Yaml.Node
import PromptDispatch.Yaml.Value

/-!
# Types of plain scalars

A plain scalar is null, a truth value, an integer, a number or a text, by how it is written.
`Scalar.value?` types one that stands anywhere, `Scalar.unsigned?` reads one that must be an unsigned
integer.
-/

namespace PromptDispatch.Yaml.Scalar

/-! ## null and truth values -/

def isNull (s : String) : Bool := s ∈ ["null", "Null", "NULL", "~"]

def bool? (s : String) : Option Bool :=
  if s ∈ ["true", "True", "TRUE"] then some true
  else if s ∈ ["false", "False", "FALSE"] then some false
  else none

/-! ## integers -/

def digitValue? (base : Nat) (c : Char) : Option Nat :=
  let v :=
    if '0' ≤ c ∧ c ≤ '9' then some (c.toNat - '0'.toNat)
    else if 'a' ≤ c ∧ c ≤ 'f' then some (c.toNat - 'a'.toNat + 10)
    else if 'A' ≤ c ∧ c ≤ 'F' then some (c.toNat - 'A'.toNat + 10)
    else none
  v.filter (· < base)

/-- the natural that digits write; none for a text without digits -/
def natural? (base : Nat) : List Char → Option Nat
  | [] => none
  | s => s.foldlM (fun n c => (digitValue? base c).map (n * base + ·)) 0

/-- zeros before a number of more than one digit make it a text -/
def hasLeadingZero (s : List Char) : Bool :=
  let digits :=
    match s with
    | '+' :: r | '-' :: r => r
    | _ => s
  1 < digits.length && digits.head? = some '0' && digits.all Char.isDigit

/-- digits in base 16, 8 or 2 after their mark -/
def marked? : List Char → Option Nat
  | '0' :: 'x' :: r => natural? 16 r
  | '0' :: 'o' :: r => natural? 8 r
  | '0' :: 'b' :: r => natural? 2 r
  | _ => none

/-- an integer that is not negative, perhaps with a plus sign -/
def unsigned? (s : List Char) : Option Nat :=
  let digits :=
    match s with
    | '+' :: r => r
    | _ => s
  match marked? digits with
  | some n => some n
  | none => if hasLeadingZero s then none else natural? 10 digits

/-- an integer with a minus sign -/
def negative? : List Char → Option Int
  | '-' :: r =>
    match marked? r with
    | some n => some (-n)
    | none => if hasLeadingZero r then none else (natural? 10 r).map fun n => -n
  | _ => none

/-- an integer that 128 bits hold -/
def integer? (s : List Char) : Option Int :=
  let n := ((unsigned? s).map fun n => (n : Int)).or (negative? s)
  n.filter fun n =>
    -0x80000000000000000000000000000000 ≤ n && n < 0x100000000000000000000000000000000

/-! ## numbers -/

/-- the exponent after `e`; zero where there is none -/
def exponent? : List Char → Option Int
  | [] => some 0
  | e :: r =>
    if e = 'e' ∨ e = 'E' then
      match r with
      | '+' :: r => (natural? 10 r).map fun n => (n : Int)
      | '-' :: r => (natural? 10 r).map fun n => -(n : Int)
      | _ => (natural? 10 r).map fun n => (n : Int)
    else none

/-- a decimal without sign: digits, perhaps with a point among, before or after them, and perhaps an
exponent -/
def decimal? (negative : Bool) (s : List Char) : Option Binary64 :=
  let whole := s.takeWhile Char.isDigit
  let r := s.dropWhile Char.isDigit
  let (places, r) :=
    match r with
    | '.' :: r => (r.takeWhile Char.isDigit, r.dropWhile Char.isDigit)
    | _ => ([], r)
  (natural? 10 (whole ++ places)).bind fun n =>
    (exponent? r).map fun e => Binary64.ofDecimal negative n (e - places.length)

/-- a number, infinity or the number that is none -/
def float? (s : List Char) : Option Binary64 :=
  let text := String.ofList s
  if text ∈ [".inf", ".Inf", ".INF", "+.inf", "+.Inf", "+.INF"] then some (.infinity false)
  else if text ∈ ["-.inf", "-.Inf", "-.INF"] then some (.infinity true)
  else if text ∈ [".nan", ".NaN", ".NAN"] then some .nan
  else
    let x :=
      match s with
      | '+' :: r => decimal? false r
      | '-' :: r => decimal? true r
      | _ => decimal? false s
    x.filter (·.isFinite)

/-! ## values -/

/-- the value of an integer; none past 64 bits -/
def intValue? (n : Int) : Option Value := (Whole.ofInt? n).map fun w => .num (.int w)

/-- the value of a plain scalar; none for an integer past 64 bits -/
def plainValue? (s : String) : Option Value :=
  if s = "" || isNull s then some .null
  else
    match bool? s, integer? s.toList with
    | some b, _ => some (.bool b)
    | none, some n => intValue? n
    | none, none =>
      if hasLeadingZero s.toList then some (.str s)
      else
        match float? s.toList with
        | some x => some (.num (.float x))
        | none => some (.str s)

/-- the start of the tags of the core types -/
def coreTag (name : String) : String := "tag:yaml.org,2002:" ++ name

/-- the value of a scalar.  A tag of a core type asks for that type; with any other tag a scalar is a
text, but with a tag of the document's own it has no value -/
def value? (text : String) (style : ScalarStyle) (tag : Option String) : Option Value :=
  match tag with
  | none => if style = .plain then plainValue? text else some (.str text)
  | some tag =>
    if tag = coreTag "bool" then (bool? text).map .bool
    else if tag = coreTag "int" then (integer? text.toList).bind intValue?
    else if tag = coreTag "float" then (float? text.toList).map fun x => .num (.float x)
    else if tag = coreTag "null" then if isNull text then some .null else none
    else if tag.startsWith "!" then none
    else some (.str text)

/-! ## what a plain scalar would be -/

/-- a text that, written plain, is read as another type than text -/
def isTyped (s : String) : Bool :=
  s = "" || isNull s || (bool? s).isSome || (integer? s.toList).isSome || (float? s.toList).isSome ||
    hasLeadingZero s.toList

end PromptDispatch.Yaml.Scalar

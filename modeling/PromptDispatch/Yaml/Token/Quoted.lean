import PromptDispatch.Yaml.Token.Folding

/-!
# Quoted scalars
-/

namespace PromptDispatch.Yaml.Quoted

/-! ## escapes -/

/-- the character of an escape without digits -/
def simpleEscape? (c : Char) : Option Char :=
  match c with
  | '0' => some '\x00'
  | 'a' => some '\x07'
  | 'b' => some '\x08'
  | 't' | '\t' => some '\t'
  | 'n' => some '\n'
  | 'v' => some '\x0b'
  | 'f' => some '\x0c'
  | 'r' => some '\r'
  | 'e' => some '\x1b'
  | ' ' => some ' '
  | '"' => some '"'
  | '/' => some '/'
  | '\\' => some '\\'
  | 'N' => some '\u0085'
  | '_' => some '\u00a0'
  | 'L' => some '\u2028'
  | 'P' => some '\u2029'
  | _ => none

/-- the number of digits after an escape's letter -/
def digitCount? (c : Char) : Option Nat :=
  match c with
  | 'x' => some 2
  | 'u' => some 4
  | 'U' => some 8
  | _ => none

def hexValue? (c : Char) : Option Nat :=
  if '0' ≤ c ∧ c ≤ '9' then some (c.toNat - '0'.toNat)
  else if 'a' ≤ c ∧ c ≤ 'f' then some (c.toNat - 'a'.toNat + 10)
  else if 'A' ≤ c ∧ c ≤ 'F' then some (c.toNat - 'A'.toNat + 10)
  else none

/-- the number that the first `n` characters write in hexadecimal -/
def hexNumber? (n : Nat) (s : List Char) : Option Nat :=
  if s.length < n then none
  else (s.take n).foldlM (fun x c => (hexValue? c).map (x * 16 + ·)) 0

/-- the character with a number, if there is one -/
def charOf? (n : Nat) : Option Char := if n.isValidChar then some (Char.ofNat n) else none

/-- the character of the escape after a backslash, and the place after it -/
def escape? (c : Cursor) : Option (Char × Cursor) :=
  c.peek.bind fun x =>
    match simpleEscape? x with
    | some y => some (y, c.skip)
    | none =>
      (digitCount? x).bind fun n =>
        (hexNumber? n (c.rest.drop 1)).bind fun v => (charOf? v).map fun y => (y, c.skip (n + 1))

/-! ## scalars -/

def quoteOf (double : Bool) : Char := if double then '"' else '\''

/-- a stretch without blanks, put before `text` with its last character first; whether an escaped
break ended it -/
def stretch (double : Bool) : Nat → List Char → Cursor → Option (List Char × Bool × Cursor)
  | 0, _, _ => none
  | fuel + 1, text, c =>
    match c.rest with
    | [] => some (text, false, c)
    | x :: r =>
      if isBlank x || isBreak x then some (text, false, c)
      else if x = quoteOf double then
        if !double && r.head? = some '\'' then stretch double fuel ('\'' :: text) (c.skip 2)
        else some (text, false, c)
      else if double && x = '\\' then
        if c.skip.atBreak then some (text, true, c.skip.skipBreak)
        else (escape? c.skip).bind fun (y, c) => stretch double fuel (y :: text) c
      else stretch double fuel (x :: text) c.skip

/-- the rest of a scalar after its opening quote -/
def rest (double : Bool) : Nat → List Char → Cursor → Option (List Char × Cursor)
  | 0, _, _ => none
  | fuel + 1, text, c =>
    if c.atDocumentMark || c.peek.isNone then none
    else
      (stretch double (c.rest.length + 1) text c).bind fun (text, broken, c) =>
        if c.isAt (quoteOf double) then some (text.reverse, c.skip)
        else
          (Folding.collect none (c.rest.length + 1) { broken } c).bind fun (f, c) =>
            rest double fuel (f.text.reverse ++ text) c

/-- the text of a quoted scalar that begins here -/
def scan (double : Bool) (c : Cursor) : Option (List Char × Cursor) :=
  rest double (c.rest.length + 1) [] c.skip

end PromptDispatch.Yaml.Quoted

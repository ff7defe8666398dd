import PromptDispatch.Text.Utf8

/-!
# Escapes in the arguments of commands

`echo` and `printf` read a backslash and what follows it as bytes.  An `EscapeDialect` says which of
the escapes a command knows.
-/

namespace PromptDispatch.Machine

structure EscapeDialect where
  /-- an octal number may have a zero before its three digits -/
  leadingZero : Bool := false
  /-- `\x` and up to two hexadecimal digits -/
  hexadecimal : Bool := false
  /-- `\c` ends the output -/
  stops : Bool := false

namespace EscapeDialect

def digitIn? (base : Nat) (c : Char) : Option Nat :=
  let v :=
    if c.isDigit then some (c.toNat - '0'.toNat)
    else if 'a' ≤ c ∧ c ≤ 'f' then some (c.toNat - 'a'.toNat + 10)
    else if 'A' ≤ c ∧ c ≤ 'F' then some (c.toNat - 'A'.toNat + 10)
    else none
  v.filter (· < base)

/-- the number of up to `n` digits, and the characters after them -/
def digits (base : Nat) : Nat → Nat → List Char → Nat × List Char
  | _, value, [] => (value, [])
  | 0, value, s => (value, s)
  | n + 1, value, c :: r =>
    match digitIn? base c with
    | some d => digits base n (value * base + d) r
    | none => (value, c :: r)

def simple? (c : Char) : Option UInt8 :=
  match c with
  | 'a' => some 7
  | 'b' => some 8
  | 't' => some 9
  | 'n' => some 10
  | 'v' => some 11
  | 'f' => some 12
  | 'r' => some 13
  | '\\' => some 92
  | _ => none

/-- the bytes of an escape after its backslash, and the characters after it; none where the output
ends -/
def one (d : EscapeDialect) : List Char → Option (List UInt8 × List Char)
  | [] => some ([92], [])
  | c :: r =>
    match simple? c with
    | some b => some ([b], r)
    | none =>
      if d.stops && c = 'c' then none
      else if (digitIn? 8 c).isSome then
        let (n, r) :=
          if d.leadingZero && c = '0' then digits 8 3 0 r else digits 8 3 0 (c :: r)
        some ([UInt8.ofNat n], r)
      else if d.hexadecimal && c = 'x' && ((r.head?.bind (digitIn? 16)).isSome) then
        let (n, r) := digits 16 2 0 r
        some ([UInt8.ofNat n], r)
      else if d.hexadecimal && c = 'e' then some ([27], r)
      else some (92 :: Text.encode [c], r)

/-- the bytes of a text, and whether the output ends with it -/
def expand (d : EscapeDialect) : Nat → List Char → List UInt8 × Bool
  | 0, _ => ([], false)
  | _, [] => ([], false)
  | fuel + 1, c :: r =>
    if c = '\\' then
      match d.one r with
      | none => ([], true)
      | some (bytes, r) =>
        let (rest, stop) := expand d fuel r
        (bytes ++ rest, stop)
    else
      let (rest, stop) := expand d fuel r
      (Text.encode [c] ++ rest, stop)

def bytes (d : EscapeDialect) (s : List Char) : List UInt8 × Bool := d.expand s.length s

end EscapeDialect

end PromptDispatch.Machine

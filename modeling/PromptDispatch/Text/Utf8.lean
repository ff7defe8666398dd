/-!
# Bytes and text

`decode` reads bytes as UTF-8: a character for each well-formed sequence and `none` for each maximal
part that begins none.  `decodeLossy` shows such a part as U+FFFD and `decode?` refuses it.
-/

namespace PromptDispatch.Text

/-! ## sequences -/

/-- for a first byte: the bits it gives, and the range of each byte that must follow -/
def followers (b : Nat) : Option (Nat × List (Nat × Nat)) :=
  let tail := (0x80, 0xBF)
  if b < 0x80 then some (b, [])
  else if b < 0xC2 then none
  else if b < 0xE0 then some (b - 0xC0, [tail])
  else if b = 0xE0 then some (0, [(0xA0, 0xBF), tail])
  else if b = 0xED then some (0xD, [(0x80, 0x9F), tail])
  else if b < 0xF0 then some (b - 0xE0, [tail, tail])
  else if b = 0xF0 then some (0, [(0x90, 0xBF), tail, tail])
  else if b < 0xF4 then some (b - 0xF0, [tail, tail, tail])
  else if b = 0xF4 then some (4, [(0x80, 0x8F), tail, tail])
  else none

/-- a sequence that has begun: its bits so far, and the range of each byte that is still missing -/
structure Pending where
  bits : Nat
  ranges : List (Nat × Nat)
  deriving DecidableEq, Repr

/-- what a byte gives, and the sequence that is open after it -/
abbrev ByteStep := List (Option Char) × Option Pending

/-- a byte between sequences -/
def firstByte (b : UInt8) : ByteStep :=
  match followers b.toNat with
  | none => ([none], none)
  | some (bits, []) => ([some (Char.ofNat bits)], none)
  | some (bits, ranges) => ([], some ⟨bits, ranges⟩)

/-- a byte after an open sequence, if one is open -/
def nextByte (p : Option Pending) (b : UInt8) : ByteStep :=
  match p with
  | none => firstByte b
  | some ⟨_, []⟩ => firstByte b
  | some ⟨bits, (lo, hi) :: ranges⟩ =>
    if lo ≤ b.toNat ∧ b.toNat ≤ hi then
      let bits := bits * 64 + b.toNat % 64
      if ranges.isEmpty then ([some (Char.ofNat bits)], none) else ([], some ⟨bits, ranges⟩)
    else
      let (out, p) := firstByte b
      (none :: out, p)

/-! ## whole texts -/

/-- decodes on after an open sequence, if one is open -/
def decodeFrom (p : Option Pending) : List UInt8 → List (Option Char)
  | [] => if p.isSome then [none] else []
  | b :: r => (nextByte p b).1 ++ decodeFrom (nextByte p b).2 r

/-- one entry per character, and `none` for each maximal part that begins no character -/
def decode (bytes : List UInt8) : List (Option Char) := decodeFrom none bytes

theorem decodeFrom_cons (p : Option Pending) (b : UInt8) (r : List UInt8) :
    decodeFrom p (b :: r) = (nextByte p b).1 ++ decodeFrom (nextByte p b).2 r := rfl

def decodeLossy (bytes : List UInt8) : List Char := (decode bytes).map fun c => c.getD '\uFFFD'

/-- the text of well-formed bytes -/
def decode? (bytes : List UInt8) : Option (List Char) := (decode bytes).mapM id

def encode (s : List Char) : List UInt8 := s.flatMap String.utf8EncodeChar

theorem encode_nil : encode [] = [] := rfl
theorem encode_append (a b : List Char) : encode (a ++ b) = encode a ++ encode b := by
  simp [encode]

end PromptDispatch.Text

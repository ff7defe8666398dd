/-!
# The grammar of JSON, one character at a time

`State.step` reads one character and refuses it where no JSON text can go on with it.  What has been
read is kept as a `Tree`: numerals as written, names in their order, repeated ones with them.  A
text is read by running the steps over it (`State.run`), so reading a text after another one is
reading on from a state (`run_append`).
-/

namespace PromptDispatch.Json

/-! ## trees -/

/-- a JSON text as written; a string with half of a surrogate pair in it has no text -/
inductive Tree where
  | null
  | bool (b : Bool)
  | numeral (lexeme : List Char)
  | string (text : Option (List Char))
  | array (items : List Tree)
  | object (members : List (Option (List Char) × Tree))
  deriving Repr, Inhabited

namespace Tree

mutual
/-- how deep arrays and objects are nested -/
def depth : Tree → Nat
  | .array items => depthItems items + 1
  | .object members => depthMembers members + 1
  | _ => 0

def depthItems : List Tree → Nat
  | [] => 0
  | t :: r => max t.depth (depthItems r)

def depthMembers : List (Option (List Char) × Tree) → Nat
  | [] => 0
  | (_, t) :: r => max t.depth (depthMembers r)
end

def isContainer : Tree → Bool
  | .array _ | .object _ => true
  | _ => false

end Tree

/-- white space between tokens -/
def isSpace (c : Char) : Bool := c = ' ' || c = '\t' || c = '\n' || c = '\r'

/-! ## numerals -/

/-- the part of a numeral that was read last -/
inductive NumeralPart where
  | sign | zero | whole | point | places | mark | markSign | exponent
  deriving DecidableEq, Repr

namespace NumeralPart

/-- a numeral may end after this part -/
def complete : NumeralPart → Bool
  | .zero | .whole | .places | .exponent => true
  | _ => false

/-- the part that a character goes on with -/
def next (p : NumeralPart) (c : Char) : Option NumeralPart :=
  match p with
  | .sign => if c = '0' then some .zero else if c.isDigit then some .whole else none
  | .zero => if c = '.' then some .point else if c = 'e' || c = 'E' then some .mark else none
  | .whole =>
    if c.isDigit then some .whole
    else if c = '.' then some .point
    else if c = 'e' || c = 'E' then some .mark else none
  | .point => if c.isDigit then some .places else none
  | .places =>
    if c.isDigit then some .places else if c = 'e' || c = 'E' then some .mark else none
  | .mark =>
    if c = '+' || c = '-' then some .markSign else if c.isDigit then some .exponent else none
  | .markSign | .exponent => if c.isDigit then some .exponent else none

/-- the part that the first character of a numeral makes -/
def first (c : Char) : Option NumeralPart :=
  if c = '-' then some .sign
  else if c = '0' then some .zero
  else if c.isDigit then some .whole else none

end NumeralPart

/-! ## strings -/

/-- where a string stands inside an escape -/
inductive EscapePart where
  | plain
  | backslash
  /-- the digits of `\u` so far, the last one first -/
  | hex (seen : List Char)
  /-- after the first half of a surrogate pair -/
  | half (high : Nat)
  | halfBackslash (high : Nat)
  | halfHex (high : Nat) (seen : List Char)
  deriving DecidableEq, Repr

/-- a string that is being read: its characters, the last one first -/
structure StringPart where
  text : List Char := []
  /-- no half of a surrogate pair stands alone -/
  sound : Bool := true
  part : EscapePart := .plain
  deriving DecidableEq, Repr

namespace StringPart

def hexValue? (c : Char) : Option Nat :=
  if '0' ≤ c ∧ c ≤ '9' then some (c.toNat - '0'.toNat)
  else if 'a' ≤ c ∧ c ≤ 'f' then some (c.toNat - 'a'.toNat + 10)
  else if 'A' ≤ c ∧ c ≤ 'F' then some (c.toNat - 'A'.toNat + 10)
  else none

/-- the number of four digits, the last one first -/
def hexNumber? (seen : List Char) : Option Nat :=
  seen.reverse.foldlM (fun n c => (hexValue? c).map (n * 16 + ·)) 0

/-- the bytes that the characters after `\u` take; they are judged when there are four -/
def width (seen : List Char) : Nat := seen.foldl (fun n c => n + c.utf8Size) 0

def simpleEscape? : Char → Option Char
  | '"' => some '"'
  | '\\' => some '\\'
  | '/' => some '/'
  | 'b' => some '\x08'
  | 'f' => some '\x0c'
  | 'n' => some '\n'
  | 'r' => some '\r'
  | 't' => some '\t'
  | _ => none

def push (s : StringPart) (c : Char) : StringPart := { s with text := c :: s.text, part := .plain }

/-- after four digits that make `n` -/
def unit (s : StringPart) (n : Nat) : StringPart :=
  if 0xD800 ≤ n ∧ n < 0xDC00 then { s with part := .half n }
  else if 0xDC00 ≤ n ∧ n < 0xE000 then { s with sound := false, part := .plain }
  else s.push (Char.ofNat n)

/-- after a second escape of four digits that make `n` -/
def secondUnit (s : StringPart) (high n : Nat) : StringPart :=
  if 0xDC00 ≤ n ∧ n < 0xE000 then
    s.push (Char.ofNat (0x10000 + (high - 0xD800) * 0x400 + (n - 0xDC00)))
  else { s with sound := false }.unit n

/-- a character after a backslash -/
def escape (s : StringPart) (c : Char) : Option StringPart :=
  if c = 'u' then some { s with part := .hex [] }
  else (simpleEscape? c).map s.push

/-- a character outside of an escape, not the closing quote -/
def plain (s : StringPart) (c : Char) : Option StringPart :=
  if c = '\\' then some { s with part := .backslash }
  else if c.toNat < 0x20 then none
  else some (s.push c)

/-- one character of a string, not the closing quote; `none` where no string goes on with it -/
def step (s : StringPart) (c : Char) : Option StringPart :=
  match s.part with
  | .plain => s.plain c
  | .backslash => s.escape c
  | .hex seen =>
    if width (c :: seen) < 4 then some { s with part := .hex (c :: seen) }
    else (hexNumber? (c :: seen)).map s.unit
  | .half high =>
    if c = '\\' then some { s with part := .halfBackslash high }
    else { s with sound := false }.plain c
  | .halfBackslash high =>
    if c = 'u' then some { s with part := .halfHex high [] }
    else { s with sound := false }.escape c
  | .halfHex high seen =>
    if width (c :: seen) < 4 then some { s with part := .halfHex high (c :: seen) }
    else (hexNumber? (c :: seen)).map (s.secondUnit high)

/-- a quote closes the string here -/
def closes (s : StringPart) : Bool :=
  match s.part with
  | .plain | .half _ => true
  | _ => false

/-- the text of a string that a quote closes -/
def result (s : StringPart) : Option (List Char) :=
  if s.sound ∧ s.part = .plain then some s.text.reverse else none

end StringPart

/-! ## states -/

/-- an array or object around the place that is being read, with what came before -/
inductive Frame where
  | items (before : List Tree)
  | member (before : List (Option (List Char) × Tree)) (name : Option (List Char))
  deriving Repr

inductive Mode where
  /-- a value comes next -/
  | value
  /-- after `[`: a value or `]` -/
  | firstItem
  | afterItem (before : List Tree)
  /-- after `{`: a name or `}` -/
  | firstName
  /-- after a comma in an object: a name -/
  | nextName (before : List (Option (List Char) × Tree))
  | name (before : List (Option (List Char) × Tree)) (s : StringPart)
  | colon (before : List (Option (List Char) × Tree)) (name : Option (List Char))
  | afterMember (before : List (Option (List Char) × Tree))
  | string (s : StringPart)
  /-- the characters of a numeral, the last one first -/
  | numeral (part : NumeralPart) (lexeme : List Char)
  /-- the rest of a word, and the value that it writes -/
  | word (rest : List Char) (value : Tree)
  /-- the whole text is a value -/
  | root (value : Tree)
  deriving Repr

/-- a place in a JSON text: what is being read, and the frames around it from the inside out -/
structure State where
  mode : Mode
  frames : List Frame
  deriving Repr

namespace State

def start : State := ⟨.value, []⟩

/-- a value has ended inside of the frames -/
def place (v : Tree) : List Frame → State
  | [] => ⟨.root v, []⟩
  | .items before :: k => ⟨.afterItem (v :: before), k⟩
  | .member before name :: k => ⟨.afterMember ((name, v) :: before), k⟩

/-- the first character of a value -/
def begin (c : Char) (k : List Frame) : Option State :=
  if isSpace c then some ⟨.value, k⟩
  else if c = '{' then some ⟨.firstName, k⟩
  else if c = '[' then some ⟨.firstItem, k⟩
  else if c = '"' then some ⟨.string {}, k⟩
  else if c = 'n' then some ⟨.word ['u', 'l', 'l'] .null, k⟩
  else if c = 't' then some ⟨.word ['r', 'u', 'e'] (.bool true), k⟩
  else if c = 'f' then some ⟨.word ['a', 'l', 's', 'e'] (.bool false), k⟩
  else (NumeralPart.first c).map fun p => ⟨.numeral p [c], k⟩

/-- a numeral that `c` does not go on with ends before it; `none` if it cannot end there -/
def settle (st : State) (c : Char) : Option State :=
  match st.mode with
  | .numeral p lexeme =>
    if (p.next c).isSome then some st
    else if p.complete ∧ ¬ (p = .zero ∧ c.isDigit) then some (place (.numeral lexeme.reverse) st.frames)
    else none
  | _ => some st

/-- reads a character after `settle` -/
def take (st : State) (c : Char) : Option State :=
  let k := st.frames
  match st.mode with
  | .value => begin c k
  | .firstItem =>
    if isSpace c then some st
    else if c = ']' then some (place (.array []) k)
    else begin c (.items [] :: k)
  | .afterItem before =>
    if isSpace c then some st
    else if c = ',' then some ⟨.value, .items before :: k⟩
    else if c = ']' then some (place (.array before.reverse) k)
    else none
  | .firstName =>
    if isSpace c then some st
    else if c = '}' then some (place (.object []) k)
    else if c = '"' then some ⟨.name [] {}, k⟩
    else none
  | .nextName before =>
    if isSpace c then some st
    else if c = '"' then some ⟨.name before {}, k⟩
    else none
  | .name before s =>
    if c = '"' ∧ s.closes then some ⟨.colon before s.result, k⟩
    else (s.step c).map fun s => ⟨.name before s, k⟩
  | .colon before name =>
    if isSpace c then some st
    else if c = ':' then some ⟨.value, .member before name :: k⟩
    else none
  | .afterMember before =>
    if isSpace c then some st
    else if c = ',' then some ⟨.nextName before, k⟩
    else if c = '}' then some (place (.object before.reverse) k)
    else none
  | .string s =>
    if c = '"' ∧ s.closes then some (place (.string s.result) k)
    else (s.step c).map fun s => ⟨.string s, k⟩
  | .numeral p lexeme => (p.next c).map fun p => ⟨.numeral p (c :: lexeme), k⟩
  | .word [] _ => none
  | .word (d :: rest) v =>
    if c = d then some (if rest = [] then place v k else ⟨.word rest v, k⟩) else none
  | .root _ => if isSpace c then some st else none

def step (st : State) (c : Char) : Option State := (st.settle c).bind (·.take c)

/-- reads a text on from a state -/
def run (st : State) : List Char → Option State
  | [] => some st
  | c :: r => (st.step c).bind (·.run r)

theorem run_cons (st : State) (c : Char) (r : List Char) :
    st.run (c :: r) = (st.step c).bind (·.run r) := rfl
theorem run_append (st : State) (a b : List Char) :
    st.run (a ++ b) = (st.run a).bind (·.run b) := by
  induction a generalizing st with
  | nil => rfl
  | cons c a ih =>
    rw [List.cons_append, run_cons, run_cons]
    cases st.step c <;> simp [ih]

/-- the value of a text that ends in this state -/
def value? (st : State) : Option Tree :=
  match st.mode, st.frames with
  | .root v, _ => some v
  | .numeral p lexeme, [] => if p.complete then some (.numeral lexeme.reverse) else none
  | _, _ => none

end State

/-- the tree of a JSON text -/
def Tree.read? (s : List Char) : Option Tree := (State.start.run s).bind State.value?

end PromptDispatch.Json

/-!
# Places in a YAML text

A cursor is the rest of a text with its line, its column and the number of characters before it.
A line ends at a line feed, a carriage return with or without a line feed, a next line (U+0085), and
a line or paragraph separator.
-/

namespace PromptDispatch.Yaml

/-! ## classes of characters -/

def isBreak (c : Char) : Bool :=
  c = '\n' || c = '\r' || c.toNat = 0x85 || c.toNat = 0x2028 || c.toNat = 0x2029

def isBlank (c : Char) : Bool := c = ' ' || c = '\t'

/-- a character of the name of an anchor or of a directive -/
def isNameChar (c : Char) : Bool := c.isAlphanum || c = '_' || c = '-'

/-- a character that a text may hold -/
def isAllowed (c : Char) : Bool :=
  let n := c.toNat
  n = 9 || n = 10 || n = 13 || (0x20 ≤ n && n ≤ 0x7E) || n = 0x85 || (0xA0 ≤ n && n ≤ 0xFFFD) ||
    0x10000 ≤ n

/-! ## cursors -/

structure Cursor where
  rest : List Char
  index : Nat := 0
  line : Nat := 0
  column : Nat := 0
  deriving Repr

namespace Cursor

def peek (c : Cursor) : Option Char := c.rest.head?

def peekAt (c : Cursor) (n : Nat) : Option Char := c.rest[n]?

/-- the next character is `x` -/
def isAt (c : Cursor) (x : Char) : Bool := c.peek == some x

/-- a break or the end of the text -/
def isEnd (x : Option Char) : Bool := (x.map isBreak).getD true

/-- a blank, a break or the end of the text -/
def isGap (x : Option Char) : Bool := (x.map fun c => isBlank c || isBreak c).getD true

def atBlank (c : Cursor) : Bool := (c.peek.map isBlank).getD false

def atBreak (c : Cursor) : Bool := (c.peek.map isBreak).getD false

def atEnd (c : Cursor) : Bool := isEnd c.peek

def atGap (c : Cursor) : Bool := isGap c.peek

/-- past `n` characters of one line -/
def skip (c : Cursor) (n : Nat := 1) : Cursor :=
  { c with rest := c.rest.drop n, index := c.index + n, column := c.column + n }

/-- past the characters of one line with a property -/
def skipWhile (c : Cursor) (p : Char → Bool) : Cursor := c.skip (c.rest.takeWhile p).length

/-- the characters of one line with a property, and the place after them -/
def takeWhile (c : Cursor) (p : Char → Bool) : List Char × Cursor :=
  (c.rest.takeWhile p, c.skipWhile p)

def nextLine (c : Cursor) (width : Nat) : Cursor :=
  { rest := c.rest.drop width, index := c.index + width, line := c.line + 1, column := 0 }

/-- past a break, if there is one; what it stands for in a scalar -/
def readBreak (c : Cursor) : List Char × Cursor :=
  match c.rest with
  | '\r' :: '\n' :: _ => (['\n'], c.nextLine 2)
  | x :: _ =>
    if x.toNat = 0x2028 || x.toNat = 0x2029 then ([x], c.nextLine 1)
    else if isBreak x then (['\n'], c.nextLine 1)
    else ([], c)
  | [] => ([], c)

def skipBreak (c : Cursor) : Cursor := c.readBreak.2

/-- to the end of the line -/
def skipLineRest (c : Cursor) : Cursor := c.skipWhile fun x => !isBreak x

/-- past blanks and a comment -/
def skipComment (c : Cursor) : Cursor :=
  let c := c.skipWhile isBlank
  if c.isAt '#' then c.skipLineRest else c

/-- `---` or `...` at the start of a line -/
def atDocumentMark (c : Cursor) : Bool :=
  c.column == 0 && (['-', '-', '-'].isPrefixOf c.rest || ['.', '.', '.'].isPrefixOf c.rest) &&
    isGap (c.peekAt 3)

end Cursor

end PromptDispatch.Yaml

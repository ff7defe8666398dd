import PromptDispatch.Yaml.Style

/-!
# Writing nodes

`Node.print` writes a node as a document.  Block collections are indented by two, a sequence that is
a mapping's value stands at its key's column, and an empty collection is `[]` or `{}`.  No line is
folded.
-/

namespace PromptDispatch.Yaml

/-! ## the text written so far -/

structure Written where
  /-- the last character first -/
  chars : List Char := []
  column : Nat := 0
  /-- a blank or the start of a line is before this place -/
  spaced : Bool := true
  /-- there is only indentation and indicators on the line -/
  indented : Bool := true

namespace Written

def put (w : Written) (c : Char) : Written :=
  { w with chars := c :: w.chars, column := w.column + 1 }

def putAll (w : Written) (s : List Char) : Written := s.foldl put w

def newline (w : Written) : Written := { w with chars := '\n' :: w.chars, column := 0 }

/-- a break of the text itself -/
def putBreak (w : Written) (c : Char) : Written :=
  { w with chars := c :: w.chars, column := 0, indented := true }

/-- to a column, on a new line where this one has been used -/
def indentTo (w : Written) (column : Nat) : Written :=
  let w :=
    if !w.indented || column < w.column || (w.column = column && !w.spaced) then w.newline else w
  { w.putAll (List.replicate (column - w.column) ' ') with spaced := true, indented := true }

/-- an indicator with a blank before it; a later one may still be on the same line -/
def opening (w : Written) (s : List Char) : Written :=
  { (if w.spaced then w else w.put ' ').putAll s with spaced := false }

/-- an indicator with a blank before it, after which the line is used -/
def mark (w : Written) (s : List Char) : Written := { w.opening s with indented := false }

/-- an indicator right after what stands before it -/
def close (w : Written) (s : List Char) : Written :=
  { w.putAll s with spaced := false, indented := false }

/-! ## scalars -/

/-- characters of a scalar; after a break of its own, the next line is indented -/
def putText (column : Nat) (write : Char → List Char) :
    Bool → List Char → Written → Bool × Written
  | broken, [], w => (broken, w)
  | broken, c :: r, w =>
    if isBreak c then putText column write true r (w.putBreak c)
    else
      let w := if broken then w.indentTo column else w
      putText column write false r { w.putAll (write c) with indented := false }

/-- characters between single quotes, where one break of the text is written as two -/
def putSingleQuoted (column : Nat) : Bool → List Char → Written → Bool × Written
  | broken, [], w => (broken, w)
  | broken, c :: r, w =>
    if isBreak c then
      putSingleQuoted column true r ((if !broken && c = '\n' then w.newline else w).putBreak c)
    else if c = ' ' then putSingleQuoted column broken r (w.put c)
    else
      let w := if broken then w.indentTo column else w
      let w := if c = '\'' then w.put c else w
      putSingleQuoted column false r { w.put c with indented := false }

def hexDigit (n : Nat) : Char := (Nat.digitChar (n % 16)).toUpper

def hexDigits (width n : Nat) : List Char :=
  ((List.range width).map fun k => hexDigit (n >>> (4 * k))).reverse

/-- a character between double quotes -/
def escaped (c : Char) : List Char :=
  if isPrintable c && !isBreak c && c ≠ '"' && c ≠ '\\' then [c]
  else
    '\\' ::
      match c with
      | '\x00' => ['0']
      | '\x07' => ['a']
      | '\x08' => ['b']
      | '\t' => ['t']
      | '\n' => ['n']
      | '\x0b' => ['v']
      | '\x0c' => ['f']
      | '\r' => ['r']
      | '\x1b' => ['e']
      | '"' => ['"']
      | '\\' => ['\\']
      | '\u0085' => ['N']
      | '\u00a0' => ['_']
      | '\u2028' => ['L']
      | '\u2029' => ['P']
      | _ =>
        if c.toNat ≤ 0xFF then 'x' :: hexDigits 2 c.toNat
        else if c.toNat ≤ 0xFFFF then 'u' :: hexDigits 4 c.toNat
        else 'U' :: hexDigits 8 c.toNat

/-- what a literal scalar says of its ends: its indentation where the text does not show it, and what
becomes of the last breaks -/
def literalHints (s : List Char) : List Char :=
  let first := if (s.head?.map fun c => isSpace c || isBreak c).getD false then ['2'] else []
  let last :=
    match s.reverse with
    | [] => ['-']
    | [c] => if isBreak c then ['+'] else ['-']
    | c :: d :: _ => if !isBreak c then ['-'] else if isBreak d then ['+'] else []
  first ++ last

/-- a scalar whose lines stand at a column -/
def scalar (column : Nat) (simpleKey : Bool) (style : ScalarStyle) (s : List Char) (w : Written) :
    Written :=
  match chosenStyle simpleKey style s with
  | .plain =>
    let w := if w.spaced || s.isEmpty then w else w.put ' '
    { (putText column (fun c => [c]) false s w).2 with spaced := false, indented := false }
  | .singleQuoted =>
    let (broken, w) := putSingleQuoted column false s (w.mark ['\''])
    (if broken then w.indentTo column else w).close ['\'']
  | .doubleQuoted => ((w.mark ['"']).putAll (s.flatMap escaped)).close ['"']
  | .literal | .folded =>
    let w := { ((w.mark ['|']).putAll (literalHints s)).newline with spaced := true, indented := true }
    (putText column (fun c => [c]) true s w).2

end Written

/-! ## nodes -/

/-- one level deeper; the outermost level is -1 -/
def deeper (indent : Int) : Nat := if indent < 0 then 0 else indent.toNat + 2

/-- the column of the lines of a scalar -/
def scalarColumn (indent : Int) : Nat := if indent < 0 then 2 else indent.toNat + 2

/-- a key that stands on one line with its colon -/
def isSimpleKey : Node → Bool
  | .scalar text _ _ => !text.toList.any isBreak && text.utf8ByteSize ≤ 128
  | .sequence items _ => items.isEmpty
  | .mapping entries _ => entries.isEmpty

mutual
/-- a node in a collection at `indent`; `inMapping` as a key or value of a mapping -/
def write (indent : Int) (inMapping simpleKey : Bool) : Node → Written → Written
  | .scalar text style _, w => w.scalar (scalarColumn indent) simpleKey style text.toList
  | .sequence items _, w =>
    if items.isEmpty then (w.mark ['[']).close [']']
    else
      writeItems (if inMapping && !w.indented && 0 ≤ indent then indent.toNat else deeper indent)
        items w
  | .mapping entries _, w =>
    if entries.isEmpty then (w.mark ['{']).close ['}'] else writeEntries (deeper indent) entries w

def writeItems (column : Nat) : List Node → Written → Written
  | [], w => w
  | n :: r, w => writeItems column r (write column false false n ((w.indentTo column).opening ['-']))

def writeEntries (column : Nat) : List (Node × Node) → Written → Written
  | [], w => w
  | (k, v) :: r, w =>
    let w := w.indentTo column
    if isSimpleKey k then
      writeEntries column r (write column true false v ((write column true true k w).close [':']))
    else
      let w := (write column true false k (w.opening ['?'])).indentTo column
      writeEntries column r (write column true false v (w.opening [':']))
end

/-- a document of one node -/
def Node.print (n : Node) : String :=
  String.ofList ((write (-1) false false n {}).indentTo 0).chars.reverse

end PromptDispatch.Yaml

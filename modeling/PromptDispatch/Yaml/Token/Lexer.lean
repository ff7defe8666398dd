import PromptDispatch.Yaml.Token.Block
import PromptDispatch.Yaml.Token.Plain
import PromptDispatch.Yaml.Token.Property

/-!
# From text to tokens

`Token.scan?` reads the tokens of a text.  Whether a scalar is a key is only seen at the colon after
it: the place of a possible key is kept for each level of brackets, and the colon puts the key's
token there, before what has been read since.
-/

namespace PromptDispatch.Yaml

/-- a place in the tokens at which a key may begin -/
structure PossibleKey where
  /-- it can be nothing else than a key -/
  required : Bool
  /-- the number of tokens before it -/
  number : Nat
  index : Nat
  line : Nat
  column : Nat

structure Lexer where
  cursor : Cursor
  /-- the last token first -/
  tokens : List Token := []
  /-- the column of the innermost block collection; -1 outside of all -/
  indent : Int := -1
  indents : List Int := []
  flowLevel : Nat := 0
  keyAllowed : Bool := true
  /-- one entry for each level of brackets, the innermost first -/
  keys : List (Option PossibleKey) := [none]

namespace Lexer

def push (l : Lexer) (t : Token) : Lexer := { l with tokens := t :: l.tokens }

/-- a token after the first `number` of them -/
def insertAt (l : Lexer) (number : Nat) (t : Token) : Lexer :=
  let later := l.tokens.length - number
  { l with tokens := l.tokens.take later ++ t :: l.tokens.drop later }

def allowKey (l : Lexer) (b : Bool) : Lexer := { l with keyAllowed := b }

def inFlow (l : Lexer) : Bool := l.flowLevel ≠ 0

/-- a token of `n` characters -/
def mark (l : Lexer) (t : Token) (n : Nat := 1) : Lexer :=
  { l.push t with cursor := l.cursor.skip n }

/-! ## possible keys -/

def innermostKey (l : Lexer) : Option PossibleKey := (l.keys.head?).join

/-- forgets the innermost possible key; fails if it had to be one -/
def dropKey? (l : Lexer) : Option Lexer :=
  if (l.innermostKey.map (·.required)).getD false then none
  else some { l with keys := none :: l.keys.drop 1 }

/-- a key may begin here, if keys are allowed -/
def saveKey? (l : Lexer) : Option Lexer :=
  if l.keyAllowed then
    let c := l.cursor
    let required := !l.inFlow && l.indent == c.column
    let key : PossibleKey := ⟨required, l.tokens.length, c.index, c.line, c.column⟩
    l.dropKey?.map fun l => { l with keys := some key :: l.keys.drop 1 }
  else some l

/-- a key stands on one line and is no longer than 1024 characters -/
def isStale (c : Cursor) (k : PossibleKey) : Bool := k.line < c.line || k.index + 1024 < c.index

/-- forgets the keys that are stale; fails if one of them had to be a key -/
def dropStale? (l : Lexer) : Option Lexer :=
  (l.keys.mapM fun k =>
    match k with
    | none => some none
    | some k => if isStale l.cursor k then (if k.required then none else some none) else some (some k)
    ).map fun keys => { l with keys }

/-! ## indentation -/

/-- opens a block collection at a column deeper than the innermost one; its token goes after the first
`number` tokens -/
def openBlock (l : Lexer) (column number : Nat) (t : Token) : Lexer :=
  if l.inFlow || column ≤ l.indent then l
  else { l.insertAt number t with indent := column, indents := l.indent :: l.indents }

/-- closes the block collections deeper than a column -/
def closeBlocks (column : Int) : List Int → Lexer → Lexer
  | [], l => l
  | i :: is, l =>
    if l.inFlow || l.indent ≤ column then l
    else closeBlocks column is { l.push .blockEnd with indent := i, indents := is }

def closeTo (l : Lexer) (column : Int) : Lexer := closeBlocks column l.indents l

/-! ## between tokens -/

/-- past blanks, comments and breaks.  A tab is no indentation where a key may begin -/
def skipGap : Nat → Lexer → Lexer
  | 0, l => l
  | fuel + 1, l =>
    let c := l.cursor
    let c := if c.index = 0 && c.isAt '\ufeff' then c.skip else c
    let c := c.skipWhile fun x => x = ' ' || ((l.inFlow || !l.keyAllowed) && x = '\t')
    let c := if c.isAt '#' then c.skipLineRest else c
    if c.atBreak then
      skipGap fuel { l with cursor := c.skipBreak, keyAllowed := l.keyAllowed || !l.inFlow }
    else { l with cursor := c }

/-! ## tokens -/

def streamEnd? (l : Lexer) : Option Lexer :=
  ((l.closeTo (-1)).dropKey?).map fun l => (l.allowKey false).push .streamEnd

def directive? (l : Lexer) : Option Lexer :=
  ((l.closeTo (-1)).dropKey?).bind fun l =>
    (Property.directive? l.cursor).map fun (t, cursor) => { (l.allowKey false).push t with cursor }

def documentMark? (l : Lexer) (t : Token) : Option Lexer :=
  ((l.closeTo (-1)).dropKey?).map fun l => (l.allowKey false).mark t 3

def openFlow? (l : Lexer) (t : Token) : Option Lexer :=
  l.saveKey?.map fun l =>
    { (l.allowKey true).mark t with flowLevel := l.flowLevel + 1, keys := none :: l.keys }

def closeFlow? (l : Lexer) (t : Token) : Option Lexer :=
  l.dropKey?.map fun l =>
    let keys := if l.inFlow then l.keys.drop 1 else l.keys
    { (l.allowKey false).mark t with flowLevel := l.flowLevel - 1, keys }

def flowEntry? (l : Lexer) : Option Lexer :=
  l.dropKey?.map fun l => (l.allowKey true).mark .flowEntry

def blockEntry? (l : Lexer) : Option Lexer :=
  if !l.inFlow && !l.keyAllowed then none
  else
    (l.openBlock l.cursor.column l.tokens.length .blockSequenceStart).dropKey?.map fun l =>
      (l.allowKey true).mark .blockEntry

def key? (l : Lexer) : Option Lexer :=
  if !l.inFlow && !l.keyAllowed then none
  else
    (l.openBlock l.cursor.column l.tokens.length .blockMappingStart).dropKey?.map fun l =>
      (l.allowKey !l.inFlow).mark .key

def value? (l : Lexer) : Option Lexer :=
  match l.innermostKey with
  | some k =>
    let l := (l.insertAt k.number .key).openBlock k.column k.number .blockMappingStart
    some ({ (l.allowKey false) with keys := none :: l.keys.drop 1 }.mark .value)
  | none =>
    if !l.inFlow && !l.keyAllowed then none
    else
      let l := l.openBlock l.cursor.column l.tokens.length .blockMappingStart
      some ((l.allowKey !l.inFlow).mark .value)

def named? (l : Lexer) (t : String → Token) : Option Lexer :=
  l.saveKey?.bind fun l =>
    (Property.name? l.cursor).map fun (name, cursor) =>
      { (l.allowKey false).push (t name) with cursor }

def tag? (l : Lexer) : Option Lexer :=
  l.saveKey?.bind fun l =>
    (Property.tag? l.inFlow l.cursor).map fun (t, cursor) => { (l.allowKey false).push t with cursor }

def scalar (l : Lexer) (text : List Char) (style : ScalarStyle) (cursor : Cursor) : Lexer :=
  { l.push (.scalar (String.ofList text) style) with cursor }

def block? (l : Lexer) (literal : Bool) : Option Lexer :=
  l.dropKey?.bind fun l =>
    (Block.scan literal l.indent l.cursor).map fun (text, c) =>
      (l.allowKey true).scalar text (if literal then .literal else .folded) c

def quoted? (l : Lexer) (double : Bool) : Option Lexer :=
  l.saveKey?.bind fun l =>
    (Quoted.scan double l.cursor).map fun (text, c) =>
      (l.allowKey false).scalar text (if double then .doubleQuoted else .singleQuoted) c

def plain? (l : Lexer) : Option Lexer :=
  l.saveKey?.bind fun l =>
    (Plain.scan l.inFlow (l.indent + 1).toNat l.cursor).map fun (text, broken, c) =>
      (l.allowKey broken).scalar text .plain c

/-- the characters with which no plain scalar begins, `-`, `?` and `:` apart -/
def isIndicator (c : Char) : Bool :=
  c ∈ [',', '[', ']', '{', '}', '#', '&', '*', '!', '|', '>', '\'', '"', '%', '@', '`']

/-- the token that begins with `c` -/
def token? (l : Lexer) (c : Char) : Option Lexer :=
  let next := l.cursor.peekAt 1
  if l.cursor.column = 0 ∧ c = '%' then l.directive?
  else if l.cursor.atDocumentMark then
    l.documentMark? (if c = '-' then .documentStart else .documentEnd)
  else if c = '[' then l.openFlow? .flowSequenceStart
  else if c = '{' then l.openFlow? .flowMappingStart
  else if c = ']' then l.closeFlow? .flowSequenceEnd
  else if c = '}' then l.closeFlow? .flowMappingEnd
  else if c = ',' then l.flowEntry?
  else if c = '-' ∧ Cursor.isGap next then l.blockEntry?
  else if c = '?' ∧ (l.inFlow ∨ Cursor.isGap next) then l.key?
  else if c = ':' ∧ (l.inFlow ∨ Cursor.isGap next) then l.value?
  else if c = '*' then l.named? .alias
  else if c = '&' then l.named? .anchor
  else if c = '!' then l.tag?
  else if c = '|' ∧ ¬ l.inFlow then l.block? true
  else if c = '>' ∧ ¬ l.inFlow then l.block? false
  else if c = '\'' then l.quoted? false
  else if c = '"' then l.quoted? true
  else if isIndicator c || isBlank c || isBreak c then none
  else l.plain?

/-- reads on to the end of the text -/
def run? : Nat → Lexer → Option (List Token)
  | 0, _ => none
  | fuel + 1, l =>
    ((skipGap (l.cursor.rest.length + 1) l).dropStale?).bind fun l =>
      let l := l.closeTo l.cursor.column
      match l.cursor.peek with
      | none => l.streamEnd?.map fun l => l.tokens.reverse
      | some c => (l.token? c).bind (run? fuel)

end Lexer

/-- the tokens of a text; none if it holds a character that it may not, or is no YAML -/
def Token.scan? (s : List Char) : Option (List Token) :=
  let s := if s.head? = some '\ufeff' then s.drop 1 else s
  if s.all isAllowed then
    Lexer.run? (s.length + 2) { cursor := { rest := s } }
  else none

end PromptDispatch.Yaml

import PromptDispatch.Yaml.Cursor
import PromptDispatch.Yaml.Node

/-!
# Styles that a text may be written in

A text is looked through once for what stands against a plain, a single quoted or a block scalar;
`chosenStyle` is then the nearest style to the one asked for that can hold the text.  A double quoted
scalar holds every text.
-/

namespace PromptDispatch.Yaml

/-- a character that stands for itself in every style -/
def isPrintable (c : Char) : Bool :=
  let n := c.toNat
  c = '\n' || (0x20 ≤ n && n ≤ 0x7E) || (0xA0 ≤ n && n ≤ 0xD7FF) ||
    (0xE000 ≤ n && n ≤ 0xFFFD && n ≠ 0xFEFF) || 0x10000 ≤ n

/-- an indicator that begins no plain scalar -/
def beginsOther (c : Char) : Bool :=
  c ∈ ['#', ',', '[', ']', '{', '}', '&', '*', '!', '|', '>', '\'', '"', '%', '@', '`']

/-- a character is the first one and has an indicator's meaning there -/
def indicatesFirst (c : Char) (next : Option Char) : Bool :=
  beginsOther c || (c ∈ ['?', ':', '-'] && Cursor.isGap next)

/-- an indicator inside of a plain scalar: a colon before a gap or a `#` after one -/
def indicatesLater : List Char → Bool
  | c :: d :: r =>
    (d = ':' && Cursor.isGap r.head?) || (d = '#' && (isBlank c || isBreak c || c = '\x00')) ||
      indicatesLater (d :: r)
  | _ => false

/-- a text that a plain scalar outside of brackets cannot hold for its indicators -/
def hasIndicator : List Char → Bool
  | [] => false
  | c :: r =>
    ['-', '-', '-'].isPrefixOf (c :: r) || ['.', '.', '.'].isPrefixOf (c :: r) ||
      indicatesFirst c r.head? || indicatesLater (c :: r)

/-- two characters that follow each other anywhere -/
def hasPair (p q : Char → Bool) : List Char → Bool
  | c :: d :: r => (p c && q d) || hasPair p q (d :: r)
  | _ => false

def isSpace (c : Char) : Bool := c = ' '

/-- what there is against a style -/
structure Analysis where
  indicator : Bool
  lines : Bool
  special : Bool
  spaceOrBreakAtEnds : Bool
  spaceAtEnd : Bool
  breakSpace : Bool
  spaceBreak : Bool

def Analysis.ofText (s : List Char) : Analysis :=
  let edge (c : Option Char) := (c.map fun c => isSpace c || isBreak c).getD false
  { indicator := hasIndicator s
    lines := s.any isBreak
    special := s.any fun c => !isPrintable c
    spaceOrBreakAtEnds := edge s.head? || edge s.getLast?
    spaceAtEnd := s.getLast? = some ' '
    breakSpace := hasPair isBreak isSpace s
    spaceBreak := hasPair isSpace isBreak s }

namespace Analysis

def plainAllowed (a : Analysis) : Bool :=
  !a.indicator && !a.lines && !a.special && !a.spaceOrBreakAtEnds && !a.breakSpace && !a.spaceBreak

def singleQuotedAllowed (a : Analysis) : Bool := !a.breakSpace && !a.spaceBreak && !a.special

def blockAllowed (a : Analysis) : Bool := !a.spaceAtEnd && !a.spaceBreak && !a.special

end Analysis

/-- the style that a text is written in where `style` is asked for; `simpleKey` on the line of a
mapping's entry, before the colon -/
def chosenStyle (simpleKey : Bool) (style : ScalarStyle) (s : List Char) : ScalarStyle :=
  let a := Analysis.ofText s
  let single : ScalarStyle := if a.singleQuotedAllowed then .singleQuoted else .doubleQuoted
  if simpleKey && a.lines then .doubleQuoted
  else
    match style with
    | .plain => if s = [] then if simpleKey then single else .plain
        else if a.plainAllowed then .plain else single
    | .singleQuoted => if s = [] then .singleQuoted else single
    | .doubleQuoted => .doubleQuoted
    | .literal | .folded => if s ≠ [] && a.blockAllowed && !simpleKey then .literal else .doubleQuoted

end PromptDispatch.Yaml

import PromptDispatch.Yaml.Cursor

/-!
# Literal and folded scalars
-/

namespace PromptDispatch.Yaml.Block

/-- what becomes of the breaks at the end -/
inductive Chomping where
  | strip | clip | keep
  deriving DecidableEq, Repr

structure Header where
  chomping : Chomping := .clip
  /-- the columns that the lines are indented by; zero where the text tells -/
  increment : Nat := 0

def chomping? (c : Char) : Option Chomping :=
  match c with
  | '+' => some .keep
  | '-' => some .strip
  | _ => none

/-- a digit from 1 to 9, if there is a digit; none for a zero -/
def increment? (c : Cursor) : Option (Nat × Cursor) :=
  match c.peek with
  | none => some (0, c)
  | some x =>
    if x = '0' then none
    else if x.isDigit then some (x.toNat - '0'.toNat, c.skip)
    else some (0, c)

/-- the indicators after `|` or `>`, in either order -/
def header? (c : Cursor) : Option (Header × Cursor) :=
  match c.peek.bind chomping? with
  | some chomping => (increment? c.skip).map fun (increment, c) => ({ chomping, increment }, c)
  | none =>
    (increment? c).map fun (increment, c') =>
      if increment = 0 then ({}, c')
      else
        match c'.peek.bind chomping? with
        | some chomping => ({ chomping, increment }, c'.skip)
        | none => ({ increment }, c')

/-- past indentation and empty lines: their breaks, and the greatest column.  `indent` is zero where
it is not known yet -/
def breaks (indent : Nat) : Nat → Nat → List Char → Cursor → Option (List Char × Nat × Cursor)
  | 0, _, _, _ => none
  | fuel + 1, widest, text, c =>
    let spaces := (c.rest.takeWhile (· = ' ')).length
    let c := c.skip (if indent = 0 then spaces else min spaces (indent - c.column))
    let widest := max widest c.column
    if (indent = 0 || c.column < indent) && c.isAt '\t' then none
    else if c.atBreak then
      let (t, c) := c.readBreak
      breaks indent fuel widest (text ++ t) c
    else some (text, widest, c)

/-- the lines of a scalar.  `text` has the last character first; `first` is the break after the last
line and `more` the breaks after that -/
def lines (literal : Bool) (indent : Nat) : Nat → List Char → List Char → List Char → Bool → Cursor →
    Option (List Char × List Char × List Char × Cursor)
  | 0, _, _, _, _, _ => none
  | fuel + 1, text, first, more, wasBlank, c =>
    if c.column = indent ∧ c.peek.isSome then
      let blank := c.atBlank
      let joint :=
        if !literal && first = ['\n'] && !wasBlank && !blank then (if more = [] then [' '] else [])
        else first
      let (line, c) := c.takeWhile fun x => !isBreak x
      let text := line.reverse ++ (more.reverse ++ (joint.reverse ++ text))
      let (first, c) := c.readBreak
      (breaks indent (c.rest.length + 1) 0 [] c).bind fun (more, _, c) =>
        lines literal indent fuel text first more blank c
    else some (text, first, more, c)

/-- the text of a scalar whose indicator stands here, in a collection indented by `parent` -/
def scan (literal : Bool) (parent : Int) (c : Cursor) : Option (List Char × Cursor) :=
  (header? c.skip).bind fun (h, c) =>
    let c := c.skipComment
    if !c.atEnd then none
    else
      let c := c.skipBreak
      let given := if h.increment = 0 then 0 else (max parent 0).toNat + h.increment
      (breaks given (c.rest.length + 1) 0 [] c).bind fun (more, widest, c) =>
        let indent := if given = 0 then max widest (max (parent + 1) 1).toNat else given
        (lines literal indent (c.rest.length + 1) [] [] more false c).map
          fun (text, first, more, c) =>
            let tail :=
              match h.chomping with
              | .strip => []
              | .clip => first
              | .keep => first ++ more
            (text.reverse ++ tail, c)

end PromptDispatch.Yaml.Block

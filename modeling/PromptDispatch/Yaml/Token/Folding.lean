import PromptDispatch.Yaml.Cursor

/-!
# Folding of lines

Between two stretches of a flow scalar stand blanks, or breaks with blanks around them.  A `Folding`
collects them; `Folding.text` is what they come to: blanks stay, one break is a blank, and of more
breaks the first is dropped.
-/

namespace PromptDispatch.Yaml

structure Folding where
  blanks : List Char := []
  /-- the first break -/
  first : List Char := []
  /-- the breaks after the first -/
  more : List Char := []
  /-- a break has been passed -/
  broken : Bool := false

namespace Folding

def text (f : Folding) : List Char :=
  if f.broken then
    if f.first = ['\n'] then (if f.more = [] then [' '] else f.more) else f.first ++ f.more
  else f.blanks

/-- collects blanks and breaks; a tab in the indentation of a new line fails, where one is asked for -/
def collect (indent : Option Nat) : Nat → Folding → Cursor → Option (Folding × Cursor)
  | 0, f, c => some (f, c)
  | fuel + 1, f, c =>
    if c.atBlank then
      if f.broken && c.isAt '\t' && (indent.map (decide <| c.column < ·)).getD false then none
      else
        let blanks := if f.broken then f.blanks else f.blanks ++ c.rest.take 1
        collect indent fuel { f with blanks } c.skip
    else if c.atBreak then
      let (text, c) := c.readBreak
      if f.broken then collect indent fuel { f with more := f.more ++ text } c
      else collect indent fuel { f with blanks := [], first := text, broken := true } c
    else some (f, c)

end Folding

end PromptDispatch.Yaml

import PromptDispatch.Yaml.Token.Folding

/-!
# Plain scalars
-/

namespace PromptDispatch.Yaml.Plain

def isFlowIndicator (c : Char) : Bool := c ∈ [',', '[', ']', '{', '}']

/-- a colon before one of these is an error inside of brackets -/
def isAfterColon (c : Char) : Bool := c ∈ [',', '?', '[', ']', '{', '}']

/-- a stretch without blanks, put before `text` with its last character first; what was collected
before it goes in between -/
def stretch (flow : Bool) : Nat → List Char → Folding → Cursor → Option (List Char × Folding × Cursor)
  | 0, _, _, _ => none
  | fuel + 1, text, f, c =>
    match c.rest with
    | [] => some (text, f, c)
    | x :: r =>
      if isBlank x || isBreak x then some (text, f, c)
      else if flow && x = ':' && (r.head?.map isAfterColon).getD false then none
      else if (x = ':' && Cursor.isGap r.head?) || (flow && isFlowIndicator x) then some (text, f, c)
      else stretch flow fuel (x :: (f.text.reverse ++ text)) {} c.skip

/-- the rest of a scalar whose lines stand at `indent` or deeper; whether a break follows it -/
def rest (flow : Bool) (indent : Nat) : Nat → List Char → Folding → Cursor →
    Option (List Char × Bool × Cursor)
  | 0, _, _, _ => none
  | fuel + 1, text, f, c =>
    if c.atDocumentMark || c.isAt '#' then some (text.reverse, f.broken, c)
    else
      (stretch flow (c.rest.length + 1) text f c).bind fun (text, f, c) =>
        if !c.atBlank && !c.atBreak then some (text.reverse, f.broken, c)
        else
          (Folding.collect (some indent) (c.rest.length + 1) f c).bind fun (f, c) =>
            if !flow && c.column < indent then some (text.reverse, f.broken, c)
            else rest flow indent fuel text f c

/-- the text of a plain scalar that begins here -/
def scan (flow : Bool) (indent : Nat) (c : Cursor) : Option (List Char × Bool × Cursor) :=
  rest flow indent (c.rest.length + 1) [] {} c

end PromptDispatch.Yaml.Plain

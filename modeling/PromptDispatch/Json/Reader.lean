import PromptDispatch.Json.Grammar
import PromptDispatch.Json.Numeral

/-!
# Reading JSON values

`Json.parse` reads a text to a value: numerals are sized, members are sorted and the last of a
repeated name stays.  A text fails whose arrays and objects are nested deeper than `maxDepth`, that
has a number too large for binary64, or a string with half of a surrogate pair.
-/

namespace PromptDispatch.Json

/-- arrays and objects may be nested as deep as this -/
def maxDepth : Nat := 127

mutual
/-- the value that a tree writes -/
def ofTree? : Tree → Option Json
  | .null => some .null
  | .bool b => some (.bool b)
  | .numeral lexeme => (Numeral.number? lexeme).map .num
  | .string text => text.map fun s => .str (String.ofList s)
  | .array items => (ofItems? items).map .arr
  | .object members => (ofMembers? members).map fun ms => .obj (Entries.ofList ms)

def ofItems? : List Tree → Option (List Json)
  | [] => some []
  | t :: r => (ofTree? t).bind fun v => (ofItems? r).map (v :: ·)

def ofMembers? : List (Option (List Char) × Tree) → Option (List (String × Json))
  | [] => some []
  | (name, t) :: r =>
    name.bind fun k =>
      (ofTree? t).bind fun v => (ofMembers? r).map ((String.ofList k, v) :: ·)
end

/-- the value of a JSON text -/
def parse (s : List Char) : Option Json :=
  (Tree.read? s).bind fun t => if t.depth ≤ maxDepth then ofTree? t else none

/-- the value of a JSON text if it is an object -/
def parseObject (s : List Char) : Option Json := (parse s).filter Json.isObject

theorem parseObject_eq_some_iff {s : List Char} {v : Json} :
    parseObject s = some v ↔ parse s = some v ∧ v.isObject = true := by
  simp [parseObject, Option.filter_eq_some_iff]

end PromptDispatch.Json

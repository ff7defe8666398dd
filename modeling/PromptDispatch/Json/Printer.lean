import PromptDispatch.Json.Value
import PromptDispatch.Decimal.Layout

/-!
# Writing JSON values

`Json.pretty` writes a value over lines, each level indented by two blanks, and an empty array or
object as `[]` or `{}`.
-/

namespace PromptDispatch

/-- numbers from `1e-5` up to below `1e16` are positional, and a whole one keeps one place -/
def Layout.json : Layout := ⟨some (-5, 15), true, true, "null", "null"⟩

def Number.text : Number → List Char
  | .int n => n.text
  | .float x => Layout.json.text x

namespace Json

/-! ## strings -/

def hexDigit (n : Nat) : Char := (Nat.digitChar n)

/-- a character inside of quotes -/
def escapeChar (c : Char) : List Char :=
  if c = '"' then ['\\', '"']
  else if c = '\\' then ['\\', '\\']
  else if c = '\n' then ['\\', 'n']
  else if c = '\r' then ['\\', 'r']
  else if c = '\t' then ['\\', 't']
  else if c = '\x08' then ['\\', 'b']
  else if c = '\x0c' then ['\\', 'f']
  else if c.toNat < 0x20 then
    ['\\', 'u', '0', '0', hexDigit (c.toNat / 16), hexDigit (c.toNat % 16)]
  else [c]

def escapeText (s : List Char) : List Char := s.flatMap escapeChar

theorem escapeText_cons (c : Char) (s : List Char) :
    escapeText (c :: s) = escapeChar c ++ escapeText s := rfl

def quote (s : List Char) : List Char := '"' :: (escapeText s ++ ['"'])

/-! ## values -/

/-- a new line at a level -/
def newline (level : Nat) : List Char := '\n' :: List.replicate (2 * level) ' '

mutual
/-- a value whose container stands at `level` -/
def prettyAt (level : Nat) : Json → List Char
  | .null => "null".toList
  | .bool b => if b then "true".toList else "false".toList
  | .num n => n.text
  | .str s => quote s.toList
  | .arr [] => ['[', ']']
  | .arr (v :: r) =>
    '[' :: newline (level + 1) ++ prettyAt (level + 1) v ++ prettyItems (level + 1) r ++
      newline level ++ [']']
  | .obj [] => ['{', '}']
  | .obj ((k, v) :: r) =>
    '{' :: newline (level + 1) ++ quote k.toList ++ ':' :: ' ' :: prettyAt (level + 1) v ++
      prettyMembers (level + 1) r ++ newline level ++ ['}']

/-- the items after the first -/
def prettyItems (level : Nat) : List Json → List Char
  | [] => []
  | v :: r => ',' :: newline level ++ prettyAt level v ++ prettyItems level r

/-- the members after the first -/
def prettyMembers (level : Nat) : List (String × Json) → List Char
  | [] => []
  | (k, v) :: r =>
    ',' :: newline level ++ quote k.toList ++ ':' :: ' ' :: prettyAt level v ++
      prettyMembers level r
end

/-- a value over lines -/
def pretty (v : Json) : String := String.ofList (prettyAt 0 v)

end Json

end PromptDispatch

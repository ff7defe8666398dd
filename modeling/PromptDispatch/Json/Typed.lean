import PromptDispatch.Json.Printer
import PromptDispatch.Text.Quoted

/-!
# Typed readings of JSON values

A reading of a value as a text or as an integer, with the mismatch where it is neither.
-/

namespace PromptDispatch.Json

/-- why a value cannot be read as asked -/
inductive Mismatch where
  /-- a value of another type than the one named -/
  | type (found : Json) (expected : String)
  /-- an integer out of the range named -/
  | range (found : Whole) (expected : String)
  | missing (field : String)
  deriving DecidableEq, Repr

/-- a value as a mismatch shows it -/
def described : Json → String
  | .null => "null"
  | .bool b => s!"boolean `{b}`"
  | .num (.int n) => s!"integer `{String.ofList n.text}`"
  | .num (.float x) => s!"floating point `{String.ofList (Layout.json.text x)}`"
  | .str s => "string " ++ String.ofList (Text.quoted s.toList)
  | .arr _ => "sequence"
  | .obj _ => "map"

def Mismatch.message : Mismatch → String
  | .type found expected => s!"invalid type: {found.described}, expected {expected}"
  | .range found expected =>
    s!"invalid value: integer `{String.ofList found.text}`, expected {expected}"
  | .missing field => s!"missing field `{field}`"

def asText : Json → Except Mismatch String
  | .str s => .ok s
  | v => .error (.type v "a string")

/-- null stands for none -/
def asOptionalText : Json → Except Mismatch (Option String)
  | .null => .ok none
  | v => v.asText.map some

/-- an integer that 64 bits with a sign hold -/
def asInt64 : Json → Except Mismatch Int64
  | .num (.int n) =>
    if n.val < 0x8000000000000000 then .ok (Int64.ofInt n.val) else .error (.range n "i64")
  | v => .error (.type v "i64")

end PromptDispatch.Json

import PromptDispatch.Schema.FieldType
import PromptDispatch.Json.Typed

/-!
# Problems of a result

What can be wrong with an agent's result, and the words for it.
-/

namespace PromptDispatch

inductive Problem where
  /-- the output holds no JSON object -/
  | noObject
  /-- the value is not an object, but of the kind named -/
  | notObject (kind : String)
  | missing (field : String)
  /-- a value of the kind named in a field of another type -/
  | mistyped (field : String) (type : FieldType) (kind : String)
  | unexpected (key : String)
  /-- the object cannot be read as the type asked for -/
  | unreadable (mismatch : Json.Mismatch)
  /-- a problem in other words -/
  | other (text : String)
  deriving DecidableEq, Repr

namespace Problem

def message : Problem → String
  | .noObject => "no JSON object found in output"
  | .notObject kind => s!"expected a JSON object, found {kind}"
  | .missing field => s!"missing required field '{field}'"
  | .mistyped field type kind =>
    s!"field '{field}' should be " ++ type.jsonType?.getD "any" ++ s!", found {kind}"
  | .unexpected key => s!"unexpected field '{key}'"
  | .unreadable mismatch => mismatch.message
  | .other text => text

end Problem

end PromptDispatch

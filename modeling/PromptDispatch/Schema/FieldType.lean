import PromptDispatch.Json.Value

/-!
# Field types

A field type is a set of JSON values: `FieldType.admits` says which ones, and `jsonType?` is its
name in a JSON Schema where it has one.
-/

namespace PromptDispatch

inductive FieldType where
  | string | number | integer | boolean | array | object
  /-- every value, null with them -/
  | any
  deriving DecidableEq, Repr, Inhabited

namespace FieldType

def all : List FieldType := [string, number, integer, boolean, array, object, any]

def name : FieldType → String
  | string => "string"
  | number => "number"
  | integer => "integer"
  | boolean => "boolean"
  | array => "array"
  | object => "object"
  | any => "any"

def ofName? (s : String) : Option FieldType := all.find? fun t => t.name = s

theorem ofName?_name (t : FieldType) : ofName? t.name = some t := by cases t <;> decide

/-- the `type` keyword of a JSON Schema, where the type constrains one -/
def jsonType? : FieldType → Option String
  | any => none
  | t => some t.name

/-- the values of a type -/
def admits (t : FieldType) (v : Json) : Bool :=
  match t, v with
  | any, _ => true
  | string, .str _ => true
  | number, .num _ => true
  | integer, .num (.int _) => true
  | boolean, .bool _ => true
  | array, .arr _ => true
  | object, .obj _ => true
  | _, _ => false

end FieldType

end PromptDispatch

import PromptDispatch.Schema.FieldType
import PromptDispatch.Json.Grammar
import PromptDispatch.Json.Printer

/-!
# Declared fields

A field has a name, a type, whether it is required, and perhaps a description.  `FieldSpec.text`
writes it as one JSON object; `FieldSpec.read?` reads that object, also with its members in another
order, left out or unknown, and an array of the same values in their order.
-/

namespace PromptDispatch

structure FieldSpec where
  name : String
  type : FieldType := .any
  required : Bool := true
  description : Option String := none
  deriving DecidableEq, Repr, Inhabited

namespace FieldSpec

open Json (Tree)

/-! ## writing -/

/-- one JSON object, its members in the order of declaration -/
def text (f : FieldSpec) : String :=
  let quoted (s : String) := String.ofList (Json.quote s.toList)
  "\x7b\"name\":" ++ quoted f.name ++ ",\"type\":" ++ quoted f.type.name ++ ",\"required\":" ++
    (if f.required then "true" else "false") ++
    (match f.description with
      | none => ""
      | some d => ",\"description\":" ++ quoted d) ++ "\x7d"

/-! ## reading -/

def textOf? : Tree → Option String
  | .string text => text.map String.ofList
  | _ => none

def boolOf? : Tree → Option Bool
  | .bool b => some b
  | _ => none

/-- a type by its name, or as an object with that name and null -/
def typeOf? : Tree → Option FieldType
  | .string (some s) => FieldType.ofName? (String.ofList s)
  | .object [(some s, .null)] => FieldType.ofName? (String.ofList s)
  | _ => none

/-- an optional text: null stands for none -/
def optionalTextOf? : Tree → Option (Option String)
  | .null => some none
  | t => (textOf? t).map some

/-- the members that have been read so far -/
structure Draft where
  name : Option String := none
  type : Option FieldType := none
  required : Option Bool := none
  description : Option (Option String) := none
  deriving DecidableEq, Repr

namespace Draft

/-- one member; a repeated one fails, and so does one with a value of another kind -/
def add? (d : Draft) (name : String) (t : Tree) : Option Draft :=
  match name with
  | "name" =>
    if d.name.isSome then none else (textOf? t).map fun x => { d with name := some x }
  | "type" =>
    if d.type.isSome then none else (typeOf? t).map fun x => { d with type := some x }
  | "required" =>
    if d.required.isSome then none else (boolOf? t).map fun x => { d with required := some x }
  | "description" =>
    if d.description.isSome then none
    else (optionalTextOf? t).map fun x => { d with description := some x }
  | _ => some d

/-- a field must have a name -/
def finish? (d : Draft) : Option FieldSpec :=
  d.name.map fun name =>
    { name
      type := d.type.getD .any
      required := d.required.getD true
      description := d.description.getD none }

/-- the members of an object in turn -/
def addAll? (d : Draft) : List (Option (List Char) × Tree) → Option Draft
  | [] => some d
  | (name, t) :: r => name.bind fun k => (d.add? (String.ofList k) t).bind (·.addAll? r)

end Draft

/-- the values of an array stand for the members in the order of declaration -/
def ofItems? : List Tree → Option FieldSpec
  | items =>
    if items.length ≤ 4 then
      (Draft.addAll? {} ((["name", "type", "required", "description"].map
        fun s => some s.toList).zip items)).bind Draft.finish?
    else none

def ofTree? : Tree → Option FieldSpec
  | .object members => (Draft.addAll? {} members).bind Draft.finish?
  | .array items => ofItems? items
  | _ => none

/-- the field that a JSON text declares -/
def read? (s : String) : Option FieldSpec := (Tree.read? s.toList).bind ofTree?

end FieldSpec

end PromptDispatch

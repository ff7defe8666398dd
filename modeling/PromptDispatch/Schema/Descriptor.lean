import PromptDispatch.Failure
import PromptDispatch.Schema.Extraction
import PromptDispatch.Schema.FieldSpec

/-!
# Descriptors of structured results

A descriptor is a labelled, closed list of fields.  `check` refuses one that cannot be used;
`problems` lists all that is wrong with a value, the declared fields first and then the members that
are not declared; `validateOutput` finds the object in an agent's output and validates it.
-/

namespace PromptDispatch

structure Descriptor where
  label : String
  fields : List FieldSpec := []
  deriving DecidableEq, Repr, Inhabited

namespace Descriptor

/-- the first field of a name -/
def get? (d : Descriptor) (name : String) : Option FieldSpec := d.fields.find? fun f => f.name = name

def requiredFields (d : Descriptor) : List FieldSpec := d.fields.filter (·.required)

/-- with one more field -/
def add (d : Descriptor) (f : FieldSpec) : Descriptor := { d with fields := d.fields ++ [f] }

/-! ## well-formed descriptors -/

/-- the first field, after those of the names `seen`, whose name is empty or seen before -/
def checkFields (label : String) (seen : List String) : List FieldSpec → Except SchemaFault Unit
  | [] => .ok ()
  | f :: r =>
    if f.name = "" then .error (.emptyFieldName label)
    else if f.name ∈ seen then .error (.repeatedField label f.name)
    else checkFields label (f.name :: seen) r

/-- what makes a descriptor unusable -/
def check (d : Descriptor) : Except SchemaFault Unit :=
  if Text.isBlankText d.label.toList then .error .blankLabel else checkFields d.label [] d.fields

/-! ## validation -/

/-- the problem of one declared field -/
def fieldProblem (members : List (String × Json)) (f : FieldSpec) : Option Problem :=
  match members.lookup f.name with
  | none => if f.required then some (.missing f.name) else none
  | some v => if f.type.admits v then none else some (.mistyped f.name f.type v.kind)

/-- the problem of one member -/
def memberProblem (d : Descriptor) (member : String × Json) : Option Problem :=
  if (d.get? member.1).isNone then some (.unexpected member.1) else none

/-- all that is wrong with a value -/
def problems (d : Descriptor) : Json → List Problem
  | .obj members => d.fields.filterMap (fieldProblem members) ++ members.filterMap d.memberProblem
  | v => [.notObject v.kind]

def validate (d : Descriptor) (v : Json) : Except Failure Unit :=
  match d.problems v with
  | [] => .ok ()
  | ps => .error (.violation d.label ps)

/-- the object in an agent's output, if it is valid -/
def validateOutput (d : Descriptor) (raw : List Char) : Except Failure Json :=
  match extractJson raw with
  | none => .error (.violation d.label [.noObject])
  | some v => (d.validate v).map fun _ => v

/-- the object in an agent's output as a typed value -/
def parse {α : Type} (d : Descriptor) (read : Json → Except Json.Mismatch α) (raw : List Char) :
    Except Failure α :=
  (d.validateOutput raw).bind fun v =>
    (read v).mapError fun m => .violation d.label [.unreadable m]

theorem validate_eq_ok_iff (d : Descriptor) (v : Json) :
    d.validate v = .ok () ↔ d.problems v = [] := by
  rw [validate]
  split <;> simp_all

end Descriptor

end PromptDispatch

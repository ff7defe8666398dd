import PromptDispatch.Config
import PromptDispatch.Yaml.Document
import PromptDispatch.Yaml.Typed

/-!
# From YAML to a configuration

A declared key stands at most once in its mapping; of a repeated agent, label, variable or key that
is not declared the last one stays.  An empty text is the configuration without entries.
-/

namespace PromptDispatch

open Yaml (Node Value)

namespace Config

/-- the entries of a mapping, of which `declared` may each stand once; the others as values -/
def split? (declared : List String) (n : Node) : Option (List (String × Node) × Extra) :=
  n.members?.bind fun members =>
    let known := members.filter fun m => m.1 ∈ declared
    let others := members.filter fun m => m.1 ∉ declared
    if (known.map Prod.fst).Nodup then
      (others.mapM fun m => (Value.ofNode? m.2).map fun v => (m.1, v)).map fun extra =>
        (known, Dict.ofList extra)
    else none

/-- the value of a declared key, or what stands for it where it is left out -/
def member? {α : Type} (members : List (String × Node)) (key : String) (missing : Option α)
    (read : Node → Option α) : Option α :=
  match members.lookup key with
  | none => missing
  | some n => read n

/-- a mapping from texts; of a repeated key the last value stays -/
def dict? {α : Type} (read : Node → Option α) (n : Node) : Option (Dict α) :=
  n.members?.bind fun members =>
    (members.mapM fun m => (read m.2).map fun v => (m.1, v)).map Dict.ofList

/-! ## fields -/

/-- a type by its name, also as a tag on nothing -/
def fieldType? : Node → Option FieldType
  | .scalar text style (some tag) =>
    if tag.startsWith "!" then
      if style = .plain ∧ (text = "" ∨ Yaml.Scalar.isNull text) then
        FieldType.ofName? (tag.drop 1).toString
      else none
    else FieldType.ofName? text
  | .scalar text _ none => FieldType.ofName? text
  | _ => none

/-- a field; keys that are not declared are passed over -/
def field? (n : Node) : Option FieldSpec :=
  n.members?.bind fun members => do
    let known := members.filter fun m => m.1 ∈ ["name", "type", "required", "description"]
    if (known.map Prod.fst).Nodup then
      let name ← member? known "name" none Node.text?
      let type ← member? known "type" (some .any) fieldType?
      let required ← member? known "required" (some true) Node.bool?
      let description ← member? known "description" (some none) (Node.optional? Node.text?)
      some { name, type, required, description }
    else none

/-! ## parts -/

def SchemaEntry.ofNode? (n : Node) : Option SchemaEntry := do
  let (members, extra) ← split? ["fields"] n
  let fields ← member? members "fields" (some []) fun n => n.items?.bind (·.mapM field?)
  some { fields, extra }

def Profile.ofNode? (n : Node) : Option Profile := do
  let (members, extra) ← split? ["kind", "command", "timeout_seconds", "environment"] n
  let kind ← member? members "kind" (some none) (Node.optional? Node.text?)
  let command ← member? members "command" (some none) (Node.optional? Node.text?)
  let timeoutSeconds ← member? members "timeout_seconds" (some none) (Node.optional? Node.unsigned?)
  let environment ← member? members "environment" (some .empty) (dict? Node.text?)
  some { kind, command, timeoutSeconds, environment, extra }

def Defaults.ofNode? (n : Node) : Option Defaults := do
  let (members, extra) ← split? ["timeout_seconds"] n
  let timeoutSeconds ← member? members "timeout_seconds" (some 600) Node.unsigned?
  some { timeoutSeconds, extra }

def ofNode? (n : Node) : Option Config := do
  let (members, extra) ← split? ["defaults", "agents", "schemas"] n
  let defaults ← member? members "defaults" (some {}) Defaults.ofNode?
  let agents ← member? members "agents" (some .empty) (dict? Profile.ofNode?)
  let schemas ← member? members "schemas" (some .empty) (dict? SchemaEntry.ofNode?)
  some { defaults, agents, schemas, extra }

/-- how deep a configuration may be nested -/
def depthLimit : Nat := 128

/-- the configuration that a YAML text declares -/
def read? (s : String) : Option Config :=
  (Yaml.Document.read? s.toList).bind fun document =>
    match document with
    | none => some {}
    | some n => if n.depth ≤ depthLimit then ofNode? n else none

end Config

end PromptDispatch

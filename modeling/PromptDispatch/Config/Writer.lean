import PromptDispatch.Config
import PromptDispatch.Yaml.Scalar
import PromptDispatch.Yaml.Printer

/-!
# From a configuration to YAML

`Config.toNode` keeps every entry: a declared one that is none or an empty environment is left out,
and the entries that are not declared follow the declared ones.  A text that would be read as
something else gets quotes.
-/

namespace PromptDispatch

open Yaml (Node Value)

/-- numbers in YAML are laid out as in JSON, but a positive exponent has no sign -/
def Layout.yaml : Layout := ⟨some (-5, 15), true, false, ".inf", ".nan"⟩

/-! ## nodes of values -/

namespace Yaml

namespace Node

def plain (text : List Char) : Node := .scalar (String.ofList text) .plain none

/-- a text: over lines as a literal scalar, in quotes where it would have another type -/
def ofText (s : String) : Node :=
  .scalar s
    (if '\n' ∈ s.toList then .literal else if Scalar.isTyped s then .singleQuoted else .plain) none

def ofBool (b : Bool) : Node := plain (if b then "true" else "false").toList

def ofNat (n : Nat) : Node := plain (Nat.toDigits 10 n)

def ofNumber : Number → Node
  | .int n => plain n.text
  | .float x => plain (Layout.yaml.text x)

/-- a mapping from texts -/
def ofMembers (members : List (String × Node)) : Node :=
  .mapping (members.map fun m => (ofText m.1, m.2)) none

end Node

namespace Value

mutual
def toNode : Value → Node
  | .null => .plain "null".toList
  | .bool b => .ofBool b
  | .num n => .ofNumber n
  | .str s => .ofText s
  | .seq items => .sequence (toNodes items) none
  | .map entries => .mapping (toPairs entries) none

def toNodes : List Value → List Node
  | [] => []
  | v :: r => v.toNode :: toNodes r

def toPairs : List (Value × Value) → List (Node × Node)
  | [] => []
  | (k, v) :: r => (k.toNode, v.toNode) :: toPairs r
end

end Value

end Yaml

namespace Config

/-! ## parts -/

/-- an entry for a value that there is -/
def optionalMember {α : Type} (key : String) (write : α → Node) : Option α → List (String × Node)
  | none => []
  | some a => [(key, write a)]

def extraMembers (extra : Extra) : List (String × Node) :=
  extra.entries.map fun e => (e.1, e.2.toNode)

def fieldNode (f : FieldSpec) : Node :=
  .ofMembers ([("name", .ofText f.name), ("type", .ofText f.type.name),
    ("required", .ofBool f.required)] ++ optionalMember "description" Node.ofText f.description)

def SchemaEntry.toNode (e : SchemaEntry) : Node :=
  .ofMembers (("fields", .sequence (e.fields.map fieldNode) none) :: extraMembers e.extra)

def environmentNode (environment : Dict String) : Node :=
  .ofMembers (environment.entries.map fun e => (e.1, .ofText e.2))

def Profile.toNode (p : Profile) : Node :=
  .ofMembers (optionalMember "kind" Node.ofText p.kind ++
    optionalMember "command" Node.ofText p.command ++
    optionalMember "timeout_seconds" (fun n => Node.ofNat n.toNat) p.timeoutSeconds ++
    (if p.environment.isEmpty then [] else [("environment", environmentNode p.environment)]) ++
    extraMembers p.extra)

def Defaults.toNode (d : Defaults) : Node :=
  .ofMembers (("timeout_seconds", .ofNat d.timeoutSeconds.toNat) :: extraMembers d.extra)

def toNode (c : Config) : Node :=
  .ofMembers ([("defaults", c.defaults.toNode),
    ("agents", .ofMembers (c.agents.entries.map fun e => (e.1, e.2.toNode))),
    ("schemas", .ofMembers (c.schemas.entries.map fun e => (e.1, e.2.toNode)))] ++
    extraMembers c.extra)

/-- a configuration as a YAML text -/
def toYaml (c : Config) : String := c.toNode.print

end Config

end PromptDispatch

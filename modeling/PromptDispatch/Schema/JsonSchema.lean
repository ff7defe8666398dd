import PromptDispatch.Schema.Descriptor

/-!
# Descriptors as JSON Schema

`Descriptor.toJsonSchema` renders a descriptor as a JSON Schema object without additional
properties.
-/

namespace PromptDispatch

namespace FieldSpec

/-- the property of a field: its type, if that constrains one, and its description -/
def property (f : FieldSpec) : Json :=
  .obj ((f.description.map fun d => ("description", .str d)).toList ++
    (f.type.jsonType?.map fun t => ("type", .str t)).toList)

end FieldSpec

namespace Descriptor

/-- the properties by name; of fields of one name the last one stays -/
def properties (d : Descriptor) : Json :=
  .obj (Entries.ofList (d.fields.map fun f => (f.name, f.property)))

def toJsonSchema (d : Descriptor) : Json :=
  .obj [
    ("additionalProperties", .bool false),
    ("properties", d.properties),
    ("required", .arr (d.requiredFields.map fun f => .str f.name)),
    ("title", .str d.label),
    ("type", .str "object")]

end Descriptor

end PromptDispatch

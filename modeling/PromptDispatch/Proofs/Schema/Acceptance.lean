import PromptDispatch.Proofs.Schema.Validation
import PromptDispatch.Schema.JsonSchema

/-!
# Values under a JSON Schema

`Json.accepts` reads a JSON value as a schema: the keywords that constrain types and members by
their rules, and every other keyword as an annotation.  What a descriptor renders to accepts exactly
the values that are valid for it.

The two go different ways: validation walks the list of fields, and the schema has a map by name
besides a list of required names.  Both agree on one field because a property without a type accepts
everything (`accepts_property`), and on all of them because their names are distinct
(`accepts_toJsonSchema`).
-/

namespace PromptDispatch

namespace Json

/-! ## schemas -/

def hasType (name : String) : Json → Bool
  | .null => name = "null"
  | .bool _ => name = "boolean"
  | .num (.int _) => name = "number" ∨ name = "integer"
  | .num (.float _) => name = "number"
  | .str _ => name = "string"
  | .arr _ => name = "array"
  | .obj _ => name = "object"

/-- `type`: the name of one type, or an array of names -/
def acceptsType : (type v : Json) → Bool
  | .str name, v => v.hasType name
  | .arr names, v => names.any fun | .str name => v.hasType name | _ => false
  | _, _ => false

/-- `required`: an object has a member of each name -/
def acceptsRequired (required : Json) (members : List (String × Json)) : Bool :=
  match required with
  | .arr names => names.all fun | .str name => (members.lookup name).isSome | _ => false
  | _ => false

def propertyNames (keywords : List (String × Json)) : List String :=
  match keywords.lookup "properties" with
  | some (.obj properties) => properties.map Prod.fst
  | _ => []

mutual
/-- whether a value is valid under a schema -/
def accepts : (schema v : Json) → Bool
  | .bool b, _ => b
  | .obj keywords, v => acceptsAll (propertyNames keywords) keywords v
  | _, _ => false
termination_by structural schema => schema

/-- all of the keywords, beside the properties `names` -/
def acceptsAll (names : List String) : (keywords : List (String × Json)) → Json → Bool
  | [], _ => true
  | (keyword, s) :: r, v =>
    (match keyword, v with
      | "type", v => acceptsType s v
      | "required", .obj members => acceptsRequired s members
      | "properties", .obj members => acceptsProperties s members
      | "additionalProperties", .obj members => members.all fun m => m.1 ∈ names || s.accepts m.2
      | _, _ => true) && acceptsAll names r v
termination_by structural keywords => keywords

/-- `properties`: a member of one of the names is valid under its schema -/
def acceptsProperties : (properties : Json) → (members : List (String × Json)) → Bool
  | .obj properties, members => acceptsMembers properties members
  | _, _ => false
termination_by structural properties => properties

def acceptsMembers : (properties members : List (String × Json)) → Bool
  | [], _ => true
  | (name, s) :: r, members => (members.lookup name).all s.accepts && acceptsMembers r members
termination_by structural properties => properties
end

theorem acceptsMembers_iff {properties members : List (String × Json)} :
    acceptsMembers properties members = true ↔
      ∀ p ∈ properties, ∀ v, members.lookup p.1 = some v → p.2.accepts v = true := by
  induction properties with
  | nil => simp [acceptsMembers]
  | cons p r ih =>
    rw [acceptsMembers, Bool.and_eq_true, ih, List.forall_mem_cons, Option.all_eq_true]

end Json

/-! ## the schema of a descriptor -/

open Json (accepts acceptsAll acceptsMembers acceptsProperties acceptsRequired)

theorem FieldType.hasType_name {t : FieldType} (h : t ≠ any) (v : Json) :
    v.hasType t.name = t.admits v := by
  cases t with
  | any => exact absurd rfl h
  | _ => cases v with
    | num n => cases n <;> rfl
    | _ => rfl

theorem FieldType.jsonType?_of_ne_any {t : FieldType} (h : t ≠ any) :
    t.jsonType? = some t.name := by
  cases t with
  | any => exact absurd rfl h
  | _ => rfl

theorem FieldSpec.accepts_property (f : FieldSpec) (v : Json) :
    f.property.accepts v = f.type.admits v := by
  have htype (names : List String) :
      acceptsAll names (f.type.jsonType?.map fun t => ("type", .str t)).toList v =
        f.type.admits v := by
    by_cases h : f.type = .any
    · rw [h]
      rfl
    · rw [FieldType.jsonType?_of_ne_any h, ← FieldType.hasType_name h v]
      exact Bool.and_true _
  rw [property, accepts]
  cases f.description with
  | none => exact htype _
  | some text => exact htype _

namespace Descriptor

variable {d : Descriptor}

theorem acceptsRequired_iff {members : List (String × Json)} :
    acceptsRequired (.arr (d.requiredFields.map fun f => .str f.name)) members = true ↔
      ∀ f ∈ d.fields, f.required = true → f.name ∈ members.map Prod.fst := by
  simp only [acceptsRequired, List.all_map, List.all_eq_true, requiredFields, List.mem_filter,
    and_imp, Function.comp_apply, Entries.lookup_isSome_iff]

/-- the properties are those of the fields, as no two of them have one name -/
theorem acceptsProperties_iff (h : d.names.Nodup) {members : List (String × Json)} :
    acceptsProperties d.properties members = true ↔
      ∀ f ∈ d.fields, ∀ v, members.lookup f.name = some v → f.type.admits v = true := by
  have hkeys : ((d.fields.map fun f => (f.name, f.property)).map Prod.fst).Nodup := by
    rw [List.map_map]
    exact h
  rw [properties, acceptsProperties, Json.acceptsMembers_iff]
  simp only [Entries.mem_ofList hkeys, List.forall_mem_map, FieldSpec.accepts_property]

theorem acceptsAdditional_iff {members : List (String × Json)} :
    (members.all fun m =>
        m.1 ∈ (Entries.ofList (d.fields.map fun f => (f.name, f.property))).map Prod.fst ||
          (Json.bool false).accepts m.2) = true ↔
      ∀ m ∈ members, m.1 ∈ d.names := by
  have hname (name : String) :
      name ∈ (d.fields.map fun f => (f.name, f.property)).map Prod.fst ↔ name ∈ d.names := by
    rw [List.map_map]
    rfl
  simp only [List.all_eq_true, Bool.or_eq_true, decide_eq_true_eq, Entries.mem_keys_ofList, hname,
    accepts, Bool.false_eq_true, or_false]

theorem isObject_of_accepts {v : Json} (h : d.toJsonSchema.accepts v = true) :
    v.isObject = true := by
  cases v with
  | obj members => rfl
  | num n => cases n <;> cases h
  | _ => cases h

/-- The schema of a descriptor with distinct names accepts what is valid for it. -/
theorem accepts_toJsonSchema (h : d.names.Nodup) (v : Json) :
    d.toJsonSchema.accepts v = true ↔ d.validate v = .ok () := by
  cases v with
  | obj members =>
    have hall : d.toJsonSchema.accepts (.obj members) =
        ((members.all fun m =>
            m.1 ∈ (Entries.ofList (d.fields.map fun f => (f.name, f.property))).map Prod.fst ||
              (Json.bool false).accepts m.2) &&
          (acceptsProperties d.properties members &&
            (acceptsRequired (.arr (d.requiredFields.map fun f => .str f.name)) members &&
              true))) := rfl
    rw [hall, validate_obj_eq_ok_iff, Bool.and_true, Bool.and_eq_true, Bool.and_eq_true,
      acceptsAdditional_iff, acceptsProperties_iff h, acceptsRequired_iff]
    constructor
    · rintro ⟨hnames, htypes, hrequired⟩
      exact ⟨fun f hf => ⟨hrequired f hf, htypes f hf⟩, hnames⟩
    · rintro ⟨hfields, hnames⟩
      exact ⟨hnames, fun f hf => (hfields f hf).2, fun f hf => (hfields f hf).1⟩
  | _ =>
    constructor
    · intro h
      cases isObject_of_accepts h
    · intro h
      cases isObject_of_validate h

end Descriptor

/-- **What a registered descriptor validates is what its schema accepts.** -/
theorem validate_eq_ok_iff_accepts {b b' : RegistryBuilder} {d : Descriptor}
    (h : b.register d = .ok b') (v : Json) :
    d.validate v = .ok () ↔ d.toJsonSchema.accepts v = true := by
  obtain ⟨hcheck, -, -⟩ := RegistryBuilder.register_eq_ok_iff.1 h
  obtain ⟨-, -, hnames⟩ := Descriptor.check_eq_ok_iff.1 hcheck
  exact (Descriptor.accepts_toJsonSchema hnames v).symm

def noteDescriptor : Descriptor :=
  { label := "note"
    fields := [
      { name := "id", type := .integer },
      { name := "text", type := .string, required := false, description := some "what it says" },
      { name := "extra" }] }

/-- a value without the optional field, and with null where every type is admitted -/
theorem validate_eq_ok_iff_accepts_note :
    RegistryBuilder.empty.register noteDescriptor =
        .ok { schemas := Dict.empty.insert "note" noteDescriptor } ∧
      noteDescriptor.validate (.obj [("extra", .null), ("id", .num (.int default))]) = .ok () := by
  have h : RegistryBuilder.empty.register noteDescriptor =
      .ok { schemas := Dict.empty.insert "note" noteDescriptor } :=
    RegistryBuilder.register_eq_ok_iff.2
      ⟨Descriptor.check_eq_ok_iff.2 (by decide +kernel), by decide +kernel, rfl⟩
  exact ⟨h, (validate_eq_ok_iff_accepts h _).2 (by decide +kernel)⟩

end PromptDispatch

import PromptDispatch.Proofs.Schema.Registration
import PromptDispatch.Schema.JsonSchema

/-!
# What a schema tells of its descriptor

A field is rendered in two places: its type and description as the property of its name, and its
name among the required ones where it is required.  No two fields of a registered descriptor have
the same name, so what stands in either place belongs to one field.

* `FieldSpec.property_eq_iff`       a property has the type and the description of its field;
* `Descriptor.properties_eq_iff`    an object of properties has those of all fields, in any order;
* `Descriptor.mem_fields_iff`       what stands in both places tells the fields;
* `toJsonSchema_eq_iff`             the schemas that are equal.
-/

namespace PromptDispatch

/-! ## one field -/

namespace FieldType

theorem bind_ofName?_jsonType? (t : FieldType) : (t.jsonType?.bind ofName?).getD .any = t := by
  cases t <;> decide

theorem jsonType?_inj {t u : FieldType} : t.jsonType? = u.jsonType? ↔ t = u := by
  refine ⟨fun h => ?_, congrArg jsonType?⟩
  rw [← bind_ofName?_jsonType? t, h, bind_ofName?_jsonType?]

end FieldType

namespace FieldSpec

variable {f g : FieldSpec}

theorem ext (hname : f.name = g.name) (htype : f.type = g.type)
    (hrequired : f.required = g.required) (hdescription : f.description = g.description) :
    f = g := by
  cases f
  cases g
  cases hname
  cases htype
  cases hrequired
  cases hdescription
  rfl

/-- Neither part of a property can be taken for the other one. -/
theorem property_eq_iff :
    f.property = g.property ↔ f.type = g.type ∧ f.description = g.description := by
  rw [← FieldType.jsonType?_inj, property, property, Json.obj.injEq]
  cases f.description <;> cases g.description <;> cases f.type.jsonType? <;>
    cases g.type.jsonType? <;> simp [and_comm]

end FieldSpec

/-! ## all fields -/

namespace Descriptor

variable {d d' : Descriptor} {f g : FieldSpec}

/-- what is rendered of the fields as properties -/
def namedProperties (d : Descriptor) : List (String × Json) :=
  d.fields.map fun f => (f.name, f.property)

theorem map_fst_namedProperties (d : Descriptor) : d.namedProperties.map Prod.fst = d.names := by
  rw [namedProperties, List.map_map]
  rfl

theorem properties_eq_iff (h : d.names.Nodup) (h' : d'.names.Nodup) :
    d.properties = d'.properties ↔ d.namedProperties.Perm d'.namedProperties := by
  rw [← map_fst_namedProperties] at h h'
  rw [properties, properties, Json.obj.injEq]
  exact Entries.ofList_eq_iff_perm h h'

def requiredNames (d : Descriptor) : List String := d.requiredFields.map (·.name)

theorem toJsonSchema_eq_iff_rendered (h : d.names.Nodup) (h' : d'.names.Nodup) :
    d.toJsonSchema = d'.toJsonSchema ↔
      d.label = d'.label ∧ d.namedProperties.Perm d'.namedProperties ∧
        d.requiredNames = d'.requiredNames := by
  have hrequired (d : Descriptor) :
      (d.requiredFields.map fun f => Json.str f.name) = d.requiredNames.map .str := by
    rw [requiredNames, List.map_map]
    rfl
  rw [← properties_eq_iff h h', ← List.map_inj_right (fun _ _ h => Json.str.inj h), ← hrequired,
    ← hrequired]
  simp [toJsonSchema, and_comm, and_left_comm]

/-! ## fields read back -/

theorem nodup_names_of_register {b b' : RegistryBuilder} (h : b.register d = .ok b') :
    d.names.Nodup := by
  obtain ⟨hcheck, -, -⟩ := RegistryBuilder.register_eq_ok_iff.1 h
  exact (check_eq_ok_iff_wellFormed.1 hcheck).distinct

theorem mem_requiredNames_iff (h : d.names.Nodup) (hf : f ∈ d.fields) :
    f.name ∈ d.requiredNames ↔ f.required = true := by
  constructor
  · intro hname
    obtain ⟨g, hg, hname⟩ := List.mem_map.1 hname
    obtain ⟨hg, hrequired⟩ := List.mem_filter.1 hg
    rwa [List.inj_on_of_nodup_map h hg hf hname] at hrequired
  · intro hrequired
    exact List.mem_map_of_mem (List.mem_filter.2 ⟨hf, hrequired⟩)

/-- The fields of a descriptor are those that stand in both places as they are rendered. -/
theorem mem_fields_iff (h : d.names.Nodup) :
    f ∈ d.fields ↔ (f.name, f.property) ∈ d.namedProperties ∧
      (f.name ∈ d.requiredNames ↔ f.required = true) := by
  constructor
  · intro hf
    exact ⟨List.mem_map_of_mem hf, mem_requiredNames_iff h hf⟩
  · rintro ⟨hproperty, hrequired⟩
    obtain ⟨g, hg, heq⟩ := List.mem_map.1 hproperty
    obtain ⟨hname, hproperty⟩ := Prod.mk.inj heq
    obtain ⟨htype, hdescription⟩ := FieldSpec.property_eq_iff.1 hproperty
    rw [← hname, mem_requiredNames_iff h hg] at hrequired
    obtain rfl : g = f :=
      FieldSpec.ext hname htype (Bool.eq_iff_iff.2 hrequired) hdescription
    exact hg

theorem get?_eq_some_iff (h : d.names.Nodup) {name : String} :
    d.get? name = some f ↔ f ∈ d.fields ∧ f.name = name :=
  Entries.find?_eq_some_iff_mem h

/-- the required fields are found under the required names, in the order of these -/
theorem filterMap_get?_requiredNames (h : d.names.Nodup) :
    d.requiredNames.filterMap d.get? = d.requiredFields := by
  have hget (f : FieldSpec) (hf : f ∈ d.requiredFields) : (d.get? ∘ (·.name)) f = some f :=
    (get?_eq_some_iff h).2 ⟨(List.mem_filter.1 hf).1, rfl⟩
  rw [requiredNames, List.filterMap_map, List.filterMap_congr hget, List.filterMap_some]

end Descriptor

/-- **A schema loses nothing of its descriptor but the order in which the fields are declared.**
Of the required ones it has that order as well. -/
theorem toJsonSchema_eq_iff {b b' c c' : RegistryBuilder} {d e : Descriptor}
    (hd : b.register d = .ok b') (he : c.register e = .ok c') :
    d.toJsonSchema = e.toJsonSchema ↔
      d.label = e.label ∧ d.fields.Perm e.fields ∧ d.requiredFields = e.requiredFields := by
  have hdn := Descriptor.nodup_names_of_register hd
  have hen := Descriptor.nodup_names_of_register he
  rw [Descriptor.toJsonSchema_eq_iff_rendered hdn hen]
  constructor
  · rintro ⟨hlabel, hproperties, hrequired⟩
    have hmem (f : FieldSpec) : f ∈ d.fields ↔ f ∈ e.fields := by
      rw [Descriptor.mem_fields_iff hdn, Descriptor.mem_fields_iff hen, hproperties.mem_iff,
        hrequired]
    have hget : d.get? = e.get? := funext fun name => Option.ext fun f => by
      rw [Descriptor.get?_eq_some_iff hdn, Descriptor.get?_eq_some_iff hen, hmem]
    refine ⟨hlabel, (List.perm_ext_iff_of_nodup (.of_map _ hdn) (.of_map _ hen)).2 hmem, ?_⟩
    rw [← Descriptor.filterMap_get?_requiredNames hdn, hrequired, hget,
      Descriptor.filterMap_get?_requiredNames hen]
  · rintro ⟨hlabel, hfields, hrequired⟩
    exact ⟨hlabel, hfields.map _, congrArg (List.map FieldSpec.name) hrequired⟩

/-- fields in another order, and an empty description in place of none -/
theorem toJsonSchema_eq_iff_three :
    let id : FieldSpec := { name := "id", type := .integer, required := false }
    let text : FieldSpec := { name := "text", description := some "" }
    let date : FieldSpec := { name := "date", type := .string }
    let note : Descriptor := { label := "note", fields := [id, text, date] }
    let moved : Descriptor := { label := "note", fields := [text, date, id] }
    let plain : Descriptor :=
      { label := "note", fields := [id, { text with description := none }, date] }
    (∀ d ∈ [note, moved, plain],
      RegistryBuilder.empty.register d = .ok { schemas := Dict.empty.insert d.label d }) ∧
    note.toJsonSchema = moved.toJsonSchema ∧ note.toJsonSchema ≠ plain.toJsonSchema := by
  intro id text date note moved plain
  have hwell : ∀ d ∈ [note, moved, plain], d.WellFormed := by decide +kernel
  have hreg (d : Descriptor) (hd : d ∈ [note, moved, plain]) :
      RegistryBuilder.empty.register d = .ok { schemas := Dict.empty.insert d.label d } :=
    RegistryBuilder.register_eq_ok_iff.2
      ⟨Descriptor.check_eq_ok_iff_wellFormed.2 (hwell d hd), rfl, rfl⟩
  have hnote := hreg note (by simp)
  have hmoved := hreg moved (by simp)
  have hplain := hreg plain (by simp)
  refine ⟨hreg, (toJsonSchema_eq_iff hnote hmoved).2 (by decide +kernel), fun h => ?_⟩
  have hfields := ((toJsonSchema_eq_iff hnote hplain).1 h).2.1
  revert hfields
  decide +kernel

-- where a name is repeated, the property of the first field is lost
example :
    let twice (t : FieldType) : Descriptor :=
      { label := "note", fields := [{ name := "id", type := t }, { name := "id" }] }
    (twice .integer).toJsonSchema = (twice .string).toJsonSchema := by
  decide +kernel

end PromptDispatch

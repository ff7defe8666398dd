import PromptDispatch.Proofs.Schema.Batch
import PromptDispatch.Proofs.Text.Trim

/-!
# Why descriptors are refused

`Descriptor.Faulty` says what is wrong with a descriptor, with the fault that is told of it.  A label
that is taken is no fault of a descriptor; it is only told where a label is registered before.

* `Descriptor.wellFormed_iff`    the well-formed descriptors, without what looks for faults;
* `Descriptor.faulty_of_check`   what is told of one descriptor;
* `Registry.faulty_of_ofDescriptors`   what is told of several under labels of their own.
-/

namespace PromptDispatch

namespace Descriptor

theorem wellFormed_iff {d : Descriptor} :
    d.WellFormed ↔ Text.trim d.label.toList ≠ [] ∧ (∀ f ∈ d.fields, f.name ≠ "") ∧
      (d.fields.map (·.name)).Nodup := by
  have hnamed : (∀ f ∈ d.fields, f.name ≠ "") ↔ ∀ n ∈ d.names, n ≠ "" :=
    (List.forall_mem_map (f := FieldSpec.name) (P := fun n => n ≠ "")).symm
  rw [Text.trim_ne_nil_iff, hnamed]
  constructor
  · intro h
    exact ⟨h.label, h.named, h.distinct⟩
  · rintro ⟨hlabel, hnamed, hdistinct⟩
    exact ⟨hlabel, hnamed, hdistinct⟩

inductive Faulty (d : Descriptor) : SchemaFault → Prop
  | blankLabel (hlabel : Text.isBlankText d.label.toList = true) : Faulty d .blankLabel
  | emptyFieldName (hname : "" ∈ d.names) : Faulty d (.emptyFieldName d.label)
  | repeatedField (name : String) (hname : 2 ≤ d.names.count name) :
    Faulty d (.repeatedField d.label name)

theorem Faulty.not_wellFormed {d : Descriptor} {fault : SchemaFault} (h : d.Faulty fault) :
    ¬d.WellFormed := by
  intro hwell
  cases h with
  | blankLabel hlabel => cases hlabel.symm.trans hwell.label
  | emptyFieldName hname => exact hwell.named "" hname rfl
  | repeatedField name hname =>
    have hone : d.names.count name ≤ 1 := List.nodup_iff_count_le_one.1 hwell.distinct name
    omega

/-- The names before the field that is told of are those that were seen, and it is counted with
them. -/
theorem faulty_of_checkFields {label : String} {seen : List String} {fs : List FieldSpec}
    {fault : SchemaFault} (h : checkFields label seen fs = .error fault) :
    (fault = .emptyFieldName label ∧ "" ∈ fs.map (·.name)) ∨
      ∃ name, fault = .repeatedField label name ∧ 2 ≤ (seen ++ fs.map (·.name)).count name := by
  induction fs generalizing seen with
  | nil => cases h
  | cons f r ih =>
    unfold checkFields at h
    rw [List.map_cons]
    by_cases hname : f.name = ""
    · rw [if_pos hname] at h
      cases h
      exact .inl ⟨rfl, hname ▸ List.mem_cons_self⟩
    · rw [if_neg hname] at h
      by_cases hseen : f.name ∈ seen
      · rw [if_pos hseen] at h
        cases h
        have hbefore : 0 < seen.count f.name := List.count_pos_iff.2 hseen
        refine .inr ⟨f.name, rfl, ?_⟩
        rw [List.count_append, List.count_cons_self]
        omega
      · rw [if_neg hseen] at h
        rcases ih h with ⟨hfault, hempty⟩ | ⟨name, hfault, hcount⟩
        · exact .inl ⟨hfault, List.mem_cons_of_mem _ hempty⟩
        · refine .inr ⟨name, hfault, ?_⟩
          have hmoved : (f.name :: seen ++ r.map (·.name)).count name =
              (seen ++ f.name :: r.map (·.name)).count name :=
            List.perm_middle.symm.count_eq name
          omega

theorem faulty_of_check {d : Descriptor} {fault : SchemaFault} (h : d.check = .error fault) :
    d.Faulty fault := by
  unfold check at h
  by_cases hlabel : Text.isBlankText d.label.toList = true
  · rw [if_pos hlabel] at h
    cases h
    exact .blankLabel hlabel
  · rw [if_neg hlabel] at h
    rcases faulty_of_checkFields h with ⟨rfl, hname⟩ | ⟨name, rfl, hname⟩
    · exact .emptyFieldName hname
    · exact .repeatedField name hname

end Descriptor

/-! ## registration -/

namespace RegistryBuilder

variable {b b' : RegistryBuilder} {d : Descriptor} {fault : SchemaFault}

theorem faulty_of_register (hfree : b.schemas.get? d.label = none)
    (h : b.register d = .error fault) : d.Faulty fault := by
  rcases register_eq_error_iff.1 h with hcheck | ⟨-, htaken, -⟩
  · exact Descriptor.faulty_of_check hcheck
  · rw [Dict.contains, hfree] at htaken
    cases htaken

/-- Where all labels are free and distinct, one of the descriptors has the fault that ends a
batch. -/
theorem faulty_of_registerAll {ds : List Descriptor}
    (hfree : ∀ d ∈ ds, b.schemas.get? d.label = none) (hdistinct : (ds.map (·.label)).Nodup)
    (h : (b.registerAll ds).2 = .error fault) : ∃ d ∈ ds, d.Faulty fault := by
  induction ds generalizing b with
  | nil => cases h
  | cons d r ih =>
    obtain ⟨hd, hr⟩ := List.forall_mem_cons.1 hfree
    obtain ⟨hlabel, hlabels⟩ := List.nodup_cons.1 hdistinct
    cases hregister : b.register d with
    | error e =>
      rw [registerAll_cons_of_error hregister] at h
      cases h
      exact ⟨d, List.mem_cons_self, faulty_of_register hd hregister⟩
    | ok b' =>
      rw [registerAll_cons_of_ok hregister] at h
      have hrest : ∀ x ∈ r, b'.schemas.get? x.label = none := by
        intro x hx
        exact (get?_of_register_eq_none_iff hregister).2
          ⟨fun hsame => hlabel (List.mem_map.2 ⟨x, hx, hsame⟩), hr x hx⟩
      obtain ⟨x, hx, hfault⟩ := ih hrest hlabels h
      exact ⟨x, List.mem_cons_of_mem d hx, hfault⟩

end RegistryBuilder

theorem Registry.faulty_of_ofDescriptors {ds : List Descriptor} {fault : SchemaFault}
    (hdistinct : (ds.map (·.label)).Nodup) (h : Registry.ofDescriptors ds = .error fault) :
    ∃ d ∈ ds, d.Faulty fault := by
  refine RegistryBuilder.faulty_of_registerAll (b := .empty) (fun _ _ => rfl) hdistinct ?_
  unfold Registry.ofDescriptors at h
  split at h
  · cases h
  · rename_i b e hall
    cases h
    rw [hall]

end PromptDispatch

import PromptDispatch.Proofs.Dict.Entries
import PromptDispatch.Proofs.Except
import PromptDispatch.Schema.Registry

/-!
# What validation accepts

* `check_eq_ok_iff`         the well-formed descriptors;
* `enter_cases`             what a builder does with a descriptor;
* `register_eq_ok_iff`      the descriptors that can be registered;
* `validate_obj_eq_ok_iff`  the objects that are valid;
* `validateOutput_eq_ok_iff`  the outputs that hold a valid object.
-/

namespace PromptDispatch

namespace Descriptor

variable {d : Descriptor}

def names (d : Descriptor) : List String := d.fields.map (·.name)

/-! ## well-formed descriptors -/

/-- the names are not empty, and each of them is there once and not among those seen before -/
theorem checkFields_eq_ok_iff (label : String) (seen : List String) (fs : List FieldSpec) :
    checkFields label seen fs = .ok () ↔
      (∀ f ∈ fs, f.name ≠ "" ∧ f.name ∉ seen) ∧ (fs.map (·.name)).Nodup := by
  induction fs generalizing seen with
  | nil => simp [checkFields]
  | cons f r ih =>
    rw [checkFields, List.forall_mem_cons, List.map_cons, List.nodup_cons]
    split
    · rename_i h
      simp [h]
    · rename_i hname
      split
      · rename_i hseen
        simp [hseen]
      · rename_i hseen
        rw [ih]
        constructor
        · rintro ⟨hr, hd⟩
          refine ⟨⟨⟨hname, hseen⟩, fun g hg => ⟨(hr g hg).1, fun hs => ?_⟩⟩, fun hm => ?_, hd⟩
          · exact (hr g hg).2 (List.mem_cons_of_mem f.name hs)
          · obtain ⟨g, hg, he⟩ := List.mem_map.1 hm
            exact (hr g hg).2 (he ▸ List.mem_cons_self)
        · rintro ⟨⟨-, hr⟩, hf, hd⟩
          refine ⟨fun g hg => ⟨(hr g hg).1, fun hs => ?_⟩, hd⟩
          rcases List.mem_cons.1 hs with he | hs
          · exact hf (he ▸ List.mem_map_of_mem hg)
          · exact (hr g hg).2 hs

theorem check_eq_ok_iff :
    d.check = .ok () ↔
      Text.isBlankText d.label.toList = false ∧ (∀ n ∈ d.names, n ≠ "") ∧ d.names.Nodup := by
  have hnames : (∀ n ∈ d.names, n ≠ "") ↔ ∀ f ∈ d.fields, f.name ≠ "" ∧ f.name ∉ [] := by
    simp [names]
  rw [check, hnames]
  cases h : Text.isBlankText d.label.toList with
  | true => simp
  | false => simp [checkFields_eq_ok_iff, names]

end Descriptor

/-! ## registration -/

namespace RegistryBuilder

variable {b b' : RegistryBuilder} {d : Descriptor} {e : SchemaFault}

/-- What an entry comes to.  Both checks come before the insertion, so that a descriptor that is
refused leaves the builder as it was. -/
theorem enter_cases (b : RegistryBuilder) (d : Descriptor) :
    (∃ e, d.check = .error e ∧ b.enter d = (b, .error e)) ∨
      (d.check = .ok () ∧ b.schemas.contains d.label = true ∧
        b.enter d = (b, .error (.alreadyRegistered d.label))) ∨
      (d.check = .ok () ∧ b.schemas.contains d.label = false ∧
        b.enter d = ({ schemas := b.schemas.insert d.label d }, .ok ())) := by
  unfold enter
  cases hcheck : d.check with
  | error e => exact .inl ⟨e, rfl, rfl⟩
  | ok u =>
    cases hlabel : b.schemas.contains d.label with
    | true => exact .inr (.inl ⟨rfl, rfl, rfl⟩)
    | false => exact .inr (.inr ⟨rfl, rfl, rfl⟩)

theorem register_eq_ok_iff :
    b.register d = .ok b' ↔
      d.check = .ok () ∧ b.schemas.contains d.label = false ∧
        { schemas := b.schemas.insert d.label d } = b' := by
  unfold register
  rcases b.enter_cases d with ⟨e, hcheck, h⟩ | ⟨hcheck, hlabel, h⟩ | ⟨hcheck, hlabel, h⟩
  · simp [h, hcheck, Except.map]
  · simp [h, hlabel, Except.map]
  · simp [h, hcheck, hlabel, Except.map]

theorem register_eq_error_iff :
    b.register d = .error e ↔
      d.check = .error e ∨
        d.check = .ok () ∧ b.schemas.contains d.label = true ∧ .alreadyRegistered d.label = e := by
  unfold register
  rcases b.enter_cases d with ⟨e', hcheck, h⟩ | ⟨hcheck, hlabel, h⟩ | ⟨hcheck, hlabel, h⟩
  · simp [h, hcheck, Except.map]
  · simp [h, hcheck, hlabel, Except.map]
  · simp [h, hcheck, hlabel, Except.map]

theorem enter_of_register (h : b.register d = .ok b') : b.enter d = (b', .ok ()) := by
  obtain ⟨u, hentered, rfl⟩ := Except.map_eq_ok_iff.1 h
  exact Prod.ext rfl hentered

theorem enter_of_register_error (h : b.register d = .error e) : b.enter d = (b, .error e) := by
  have hrefused : (b.enter d).2 = .error e := Except.map_eq_error_iff.1 h
  have hsame : (b.enter d).1 = b := by
    rcases b.enter_cases d with ⟨e', -, henter⟩ | ⟨-, -, henter⟩ | ⟨-, -, henter⟩
    · rw [henter]
    · rw [henter]
    · rw [henter] at hrefused
      cases hrefused
  exact Prod.ext hsame hrefused

theorem registerAll_cons_of_ok (h : b.register d = .ok b') (r : List Descriptor) :
    b.registerAll (d :: r) = b'.registerAll r := by
  rw [registerAll, enter_of_register h]

theorem registerAll_cons_of_error (h : b.register d = .error e) (r : List Descriptor) :
    b.registerAll (d :: r) = (b, .error e) := by
  rw [registerAll, enter_of_register_error h]

end RegistryBuilder

namespace Descriptor

variable {d : Descriptor}

/-! ## valid values -/

theorem get?_isNone_iff {name : String} : (d.get? name).isNone ↔ name ∉ d.names := by
  simp [get?, names]

theorem fieldProblem_eq_none_iff {members : List (String × Json)} {f : FieldSpec} :
    fieldProblem members f = none ↔
      (f.required = true → f.name ∈ members.map Prod.fst) ∧
        ∀ v, members.lookup f.name = some v → f.type.admits v = true := by
  rw [fieldProblem]
  split
  · rename_i h
    have hk : f.name ∉ members.map Prod.fst := fun hm => by
      rw [← Entries.lookup_isSome_iff, h] at hm
      cases hm
    simp [h, hk]
  · rename_i v h
    have hk : f.name ∈ members.map Prod.fst := Entries.lookup_isSome_iff.1 (h ▸ rfl)
    simp [h, hk]

theorem memberProblem_eq_none_iff {member : String × Json} :
    d.memberProblem member = none ↔ member.1 ∈ d.names := by
  rw [memberProblem]
  split
  · rename_i h
    simpa using get?_isNone_iff.1 h
  · rename_i h
    simpa using mt get?_isNone_iff.2 h

theorem validate_obj_eq_ok_iff {members : List (String × Json)} :
    d.validate (.obj members) = .ok () ↔
      (∀ f ∈ d.fields, (f.required = true → f.name ∈ members.map Prod.fst) ∧
        ∀ v, members.lookup f.name = some v → f.type.admits v = true) ∧
      ∀ m ∈ members, m.1 ∈ d.names := by
  rw [validate_eq_ok_iff, problems, List.append_eq_nil_iff, List.filterMap_eq_nil_iff,
    List.filterMap_eq_nil_iff]
  simp only [fieldProblem_eq_none_iff, memberProblem_eq_none_iff]

theorem isObject_of_validate {v : Json} (h : d.validate v = .ok ()) : v.isObject = true := by
  have hp := (validate_eq_ok_iff d v).1 h
  cases v with
  | obj members => rfl
  | _ => cases hp

/-! ## valid outputs -/

theorem validateOutput_eq_ok_iff {raw : List Char} {v : Json} :
    d.validateOutput raw = .ok v ↔ extractJson raw = some v ∧ d.validate v = .ok () := by
  rw [validateOutput]
  split
  · rename_i h
    simp [h]
  · rename_i w h
    rw [Except.map_eq_ok_iff, h, Option.some.injEq]
    constructor
    · rintro ⟨u, hw, rfl⟩
      exact ⟨rfl, hw⟩
    · rintro ⟨rfl, hv⟩
      exact ⟨(), hv, rfl⟩

theorem violation_of_validate {v : Json} {f : Failure} (h : d.validate v = .error f) :
    ∃ ps, f = .violation d.label ps := by
  rw [validate] at h
  split at h
  · cases h
  · cases h
    exact ⟨_, rfl⟩

theorem violation_of_validateOutput {raw : List Char} {f : Failure}
    (h : d.validateOutput raw = .error f) : ∃ ps, f = .violation d.label ps := by
  rw [validateOutput] at h
  split at h
  · cases h
    exact ⟨_, rfl⟩
  · exact violation_of_validate (Except.map_eq_error_iff.1 h)

end Descriptor

end PromptDispatch

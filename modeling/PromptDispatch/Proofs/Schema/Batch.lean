import Mathlib.Data.List.Find
import Mathlib.Data.List.Sort
import PromptDispatch.Proofs.Schema.Registration

/-!
# The registry of a list of descriptors

* `RegistryBuilder.registerAll_eq_ok_iff`   the batches without a failure;
* `Registry.exists_ofDescriptors_iff`   the lists that have a registry;
* `Registry.lookup_ofDescriptors`, `Registry.labels_ofDescriptors`   what is in it;
* `registerAll_any_order`   the order of the list does not matter to any of this.
-/

namespace PromptDispatch

variable {ds : List Descriptor} {d : Descriptor}

namespace RegistryBuilder

variable {b b' : RegistryBuilder}

/-- A batch goes well where all of its descriptors are well formed and their labels are free and
distinct. -/
theorem registerAll_eq_ok_iff :
    (b.registerAll ds).2 = .ok () ↔
      (∀ d ∈ ds, d.WellFormed ∧ b.schemas.get? d.label = none) ∧ (ds.map (·.label)).Nodup := by
  induction ds generalizing b with
  | nil => simp [registerAll]
  | cons d r ih =>
    rw [List.forall_mem_cons, List.map_cons, List.nodup_cons, ← register_isOk_iff]
    cases hr : b.register d with
    | error e => simp [registerAll_cons_of_error hr]
    | ok b' =>
      rw [registerAll_cons_of_ok hr]
      -- what is free for the rest is what was free before and is not taken by `d`
      simp only [ih, get?_of_register_eq_none_iff hr]
      constructor
      · rintro ⟨hall, hnodup⟩
        refine ⟨⟨rfl, fun x hx => ⟨(hall x hx).1, (hall x hx).2.2⟩⟩, fun hd => ?_, hnodup⟩
        obtain ⟨x, hx, hlabel⟩ := List.mem_map.1 hd
        exact (hall x hx).2.1 hlabel
      · rintro ⟨⟨-, hall⟩, hd, hnodup⟩
        exact ⟨fun x hx => ⟨(hall x hx).1, fun hlabel => hd (hlabel ▸ List.mem_map_of_mem hx),
          (hall x hx).2⟩, hnodup⟩

end RegistryBuilder

namespace Registry

variable {r : Registry}

theorem ofDescriptors_eq_ok_iff :
    ofDescriptors ds = .ok r ↔ (RegistryBuilder.empty.registerAll ds).2 = .ok () ∧
      (RegistryBuilder.empty.registerAll ds).1.build = r := by
  rw [ofDescriptors]
  split
  · rename_i b h
    simp [h]
  · rename_i b e h
    simp [h]

theorem exists_ofDescriptors_iff :
    (∃ r, ofDescriptors ds = .ok r) ↔ (∀ d ∈ ds, d.WellFormed) ∧ (ds.map (·.label)).Nodup := by
  have hfree : ∀ d : Descriptor, RegistryBuilder.empty.schemas.get? d.label = none := fun _ => rfl
  simp [ofDescriptors_eq_ok_iff, RegistryBuilder.registerAll_eq_ok_iff, hfree]

theorem lookup_ofDescriptors (h : ofDescriptors ds = .ok r) (l : String) :
    r.lookup l = ds.find? fun d => d.label = l := by
  obtain ⟨hwell, -⟩ := exists_ofDescriptors_iff.1 ⟨r, h⟩
  obtain ⟨hok, rfl⟩ := ofDescriptors_eq_ok_iff.1 h
  have hkeeps := RegistryBuilder.keeps_empty.registerAll ds
  rw [(RegistryBuilder.registerAll_of_ok hok).2, List.nil_append] at hkeeps
  rw [hkeeps.lookup_build]
  exact List.find?_congr fun d hd => decide_eq_decide.2 (and_iff_left (hwell d hd))

theorem mem_labels_ofDescriptors (h : ofDescriptors ds = .ok r) {l : String} :
    l ∈ r.labels ↔ l ∈ ds.map (·.label) := by
  rw [mem_labels_iff, lookup_ofDescriptors h]
  simp

theorem labels_ofDescriptors (h : ofDescriptors ds = .ok r)
    (hsorted : (ds.map (·.label)).Pairwise (· < ·)) : r.labels = ds.map (·.label) :=
  r.schemas.keys_sorted.eq_of_mem_iff hsorted fun _ => mem_labels_ofDescriptors h

theorem lookup_ofDescriptors_eq_some_iff (h : ofDescriptors ds = .ok r) {l : String} :
    r.lookup l = some d ↔ d ∈ ds ∧ d.label = l := by
  obtain ⟨-, hnodup⟩ := exists_ofDescriptors_iff.1 ⟨r, h⟩
  rw [lookup_ofDescriptors h]
  exact Entries.find?_eq_some_iff_mem hnodup

theorem labels_perm_ofDescriptors (h : ofDescriptors ds = .ok r) :
    r.labels.Perm (ds.map (·.label)) := by
  obtain ⟨-, hnodup⟩ := exists_ofDescriptors_iff.1 ⟨r, h⟩
  exact (List.perm_ext_iff_of_nodup r.nodup_labels hnodup).2 fun _ => mem_labels_ofDescriptors h

theorem size_ofDescriptors (h : ofDescriptors ds = .ok r) : r.size = ds.length := by
  have hlength := (labels_perm_ofDescriptors h).length_eq
  rwa [labels, Dict.keys, List.length_map, List.length_map] at hlength

/-! ## the order of the descriptors -/

/-- registries in which the same is found are the same -/
theorem ext_lookup {r' : Registry} (h : ∀ l, r.lookup l = r'.lookup l) : r = r' := by
  have hschemas : r.schemas = r'.schemas := Dict.ext_get? h
  cases r
  cases r'
  cases hschemas
  rfl

variable {ds' : List Descriptor}

/-- What decides on a list, and what is found in its registry, is told by the members of the list
alone. -/
theorem ofDescriptors_perm (hperm : ds.Perm ds') (h : ofDescriptors ds = .ok r) :
    ofDescriptors ds' = .ok r := by
  obtain ⟨hwell, hnodup⟩ := exists_ofDescriptors_iff.1 ⟨r, h⟩
  obtain ⟨r', h'⟩ : ∃ r', ofDescriptors ds' = .ok r' :=
    exists_ofDescriptors_iff.2
      ⟨fun d hd => hwell d (hperm.mem_iff.2 hd), (hperm.map (·.label)).nodup_iff.1 hnodup⟩
  have hsame : r' = r := by
    refine ext_lookup fun l => Option.ext fun d => ?_
    rw [lookup_ofDescriptors_eq_some_iff h', lookup_ofDescriptors_eq_some_iff h, hperm.mem_iff]
  rw [h', hsame]

end Registry

/-- **The order of registration does not matter.**  Two orders of the same descriptors go well or
fail together, and go well exactly where all descriptors are well formed and their labels distinct.
The registries that are sealed then are the same: they have each descriptor under its own label, and
the labels ascend. -/
theorem registerAll_any_order {ds ds' : List Descriptor} (h : ds.Perm ds') :
    let one := RegistryBuilder.empty.registerAll ds
    let other := RegistryBuilder.empty.registerAll ds'
    (one.2 = .ok () ↔ other.2 = .ok ()) ∧
    (one.2 = .ok () ↔ (∀ d ∈ ds, d.WellFormed) ∧ (ds.map (·.label)).Nodup) ∧
    (one.2 = .ok () →
      other.1.build = one.1.build ∧
      (other.1.build.labels = one.1.build.labels ∧ other.1.build.size = one.1.build.size ∧
        ∀ l, other.1.build.lookup l = one.1.build.lookup l) ∧
      (one.1.build.labels.Pairwise (· < ·) ∧ one.1.build.labels.Perm (ds.map (·.label)) ∧
        one.1.build.size = ds.length ∧
        ∀ l d, one.1.build.lookup l = some d ↔ d ∈ ds ∧ d.label = l)) := by
  intro one other
  have hok {ds : List Descriptor} (hds : (RegistryBuilder.empty.registerAll ds).2 = .ok ()) :
      Registry.ofDescriptors ds = .ok (RegistryBuilder.empty.registerAll ds).1.build :=
    Registry.ofDescriptors_eq_ok_iff.2 ⟨hds, rfl⟩
  refine ⟨⟨fun hone => ?_, fun hother => ?_⟩, ?_, fun hone => ?_⟩
  · exact (Registry.ofDescriptors_eq_ok_iff.1 (Registry.ofDescriptors_perm h (hok hone))).1
  · exact (Registry.ofDescriptors_eq_ok_iff.1 (Registry.ofDescriptors_perm h.symm (hok hother))).1
  · rw [RegistryBuilder.registerAll_eq_ok_iff]
    exact and_congr_left fun _ => forall₂_congr fun d _ => and_iff_left rfl
  · have hsame : other.1.build = one.1.build :=
      (Registry.ofDescriptors_eq_ok_iff.1 (Registry.ofDescriptors_perm h (hok hone))).2
    refine ⟨hsame, ?_, ?_⟩
    · rw [hsame]
      exact ⟨rfl, rfl, fun _ => rfl⟩
    · exact ⟨one.1.build.schemas.keys_sorted, Registry.labels_perm_ofDescriptors (hok hone),
        Registry.size_ofDescriptors (hok hone),
        fun _ _ => Registry.lookup_ofDescriptors_eq_some_iff (hok hone)⟩

/-- three descriptors, from the last label to the first and the other way round -/
theorem registerAll_any_order_three :
    let note : Descriptor := { label := "note", fields := [{ name := "text" }] }
    let plan : Descriptor := { label := "plan", fields := [{ name := "step" }, { name := "due" }] }
    let review : Descriptor := { label := "Review" }
    let builder := RegistryBuilder.empty.registerAll [plan, note, review]
    builder.2 = .ok () ∧
      (RegistryBuilder.empty.registerAll [review, note, plan]).1.build = builder.1.build ∧
      builder.1.build.lookup "plan" = some plan := by
  intro note plan review builder
  have hperm : [plan, note, review].Perm [review, note, plan] := by decide +kernel
  obtain ⟨-, hok, hsame⟩ := registerAll_any_order hperm
  have hgood : builder.2 = .ok () := hok.2 (by decide +kernel)
  obtain ⟨hbuild, -, -, -, -, hlookup⟩ := hsame hgood
  exact ⟨hgood, hbuild, (hlookup "plan" plan).2 (by decide +kernel)⟩

-- where a batch fails it is a matter of the order which failure comes first
example :
    let batch (ds : List Descriptor) := (RegistryBuilder.empty.registerAll ds).2
    batch [{ label := "note" }, { label := "note" }, { label := " " }] =
        .error (.alreadyRegistered "note") ∧
      batch [{ label := " " }, { label := "note" }, { label := "note" }] = .error .blankLabel :=
  ⟨rfl, rfl⟩

end PromptDispatch

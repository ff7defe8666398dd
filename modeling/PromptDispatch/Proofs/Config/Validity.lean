import PromptDispatch.Config.Selection
import PromptDispatch.Proofs.Schema.Batch

/-!
# Valid configurations

`Config.validate` looks for one fault after the other.  `Config.Valid` says of a configuration, entry
by entry, that it has none:

* `Config.Profile.check_eq_ok_iff`   the profiles that are accepted;
* `Config.exists_registry_iff`       the schemas that have a registry;
* `Config.validate_eq_ok_iff`        the configurations that are accepted;
* `Config.valid_of_ofYaml`, `Config.valid_default`   what is read from a text, and what is used
  without one.
-/

namespace PromptDispatch.Config

/-! ## profiles -/

/-- A profile that can be run: its name is not empty, it stands for a built-in agent, and a command
and a timeout of its own are not blank and not zero. -/
structure Profile.Valid (p : Profile) (name : String) : Prop where
  named : name ≠ ""
  kind : (AgentKind.ofName? (p.kind.getD name)).isSome = true
  command : ∀ s, p.command = some s → Text.isBlankText s.toList = false
  timeout : p.timeoutSeconds ≠ some 0

namespace Profile

variable {p : Profile} {name : String}

theorem agentKind_eq_ok_iff {k : AgentKind} :
    p.agentKind name = .ok k ↔ AgentKind.ofName? (p.kind.getD name) = some k := by
  rw [agentKind]
  cases AgentKind.ofName? (p.kind.getD name) <;> simp

theorem check_eq_ok_iff : p.check name = .ok () ↔ p.Valid name := by
  have hblank : (p.command.map fun s => Text.isBlankText s.toList).getD false = false ↔
      ∀ s, p.command = some s → Text.isBlankText s.toList = false := by
    cases p.command <;> simp
  rw [check]
  by_cases hname : name = ""
  · rw [if_pos hname]
    exact ⟨nofun, fun h => absurd hname h.named⟩
  · rw [if_neg hname, Except.bind_eq_ok_iff]
    constructor
    · rintro ⟨k, hk, h⟩
      split at h
      · cases h
      · rename_i hcommand
        split at h
        · cases h
        · rename_i htimeout
          exact ⟨hname, Option.isSome_of_eq_some (agentKind_eq_ok_iff.1 hk),
            hblank.1 (Bool.not_eq_true _ ▸ hcommand), htimeout⟩
    · intro h
      obtain ⟨k, hk⟩ := Option.isSome_iff_exists.1 h.kind
      refine ⟨k, agentKind_eq_ok_iff.2 hk, ?_⟩
      rw [hblank.2 h.command, if_neg Bool.false_ne_true, if_neg h.timeout]

end Profile

theorem checkAgents_eq_ok_iff {l : List (String × Profile)} :
    checkAgents l = .ok () ↔ ∀ e ∈ l, e.2.Valid e.1 := by
  induction l with
  | nil => simp [checkAgents]
  | cons e r ih =>
    rw [checkAgents, Except.check_bind_eq_ok_iff, ih, Profile.check_eq_ok_iff, List.forall_mem_cons]

/-! ## schemas -/

variable {c : Config}

theorem map_label_descriptors (c : Config) : c.descriptors.map (·.label) = c.schemas.keys := by
  rw [descriptors, List.map_map]
  rfl

/-- The labels are those of a map, so that none is ever registered twice. -/
theorem exists_registry_iff :
    (∃ r, c.registry = .ok r) ↔ ∀ label e, c.schemas.get? label = some e →
      Descriptor.WellFormed { label, fields := e.fields } := by
  -- so that only the descriptors themselves can be refused
  have hnodup : (c.descriptors.map (·.label)).Nodup := by
    rw [map_label_descriptors]
    exact c.schemas.sorted.nodup
  rw [registry, Registry.exists_ofDescriptors_iff, and_iff_left hnodup, descriptors,
    List.forall_mem_map, Prod.forall]
  simp only [Dict.get?_eq_some_iff_mem]

/-! ## configurations -/

structure Valid (c : Config) : Prop where
  timeout : c.defaults.timeoutSeconds ≠ 0
  agents : ∀ name p, c.agents.get? name = some p → p.Valid name
  schemas : ∀ label e, c.schemas.get? label = some e →
    Descriptor.WellFormed { label, fields := e.fields }

theorem check_eq_ok_iff : c.check = .ok () ↔ c.Valid := by
  have hagents : checkAgents c.agents.entries = .ok () ↔
      ∀ name p, c.agents.get? name = some p → p.Valid name := by
    simp [checkAgents_eq_ok_iff, Dict.get?_eq_some_iff_mem]
  rw [check]
  by_cases htimeout : c.defaults.timeoutSeconds = 0
  · rw [if_pos htimeout]
    exact ⟨nofun, fun h => absurd htimeout h.timeout⟩
  · rw [if_neg htimeout, Except.check_bind_eq_ok_iff, hagents]
    constructor
    · rintro ⟨h, hschemas⟩
      split at hschemas
      · rename_i r hr
        exact ⟨htimeout, h, exists_registry_iff.1 ⟨r, hr⟩⟩
      · cases hschemas
    · intro h
      obtain ⟨r, hr⟩ := exists_registry_iff.2 h.schemas
      rw [hr]
      exact ⟨h.agents, rfl⟩

theorem validate_eq_ok_iff : c.validate = .ok () ↔ c.Valid := by
  rw [validate, Except.mapError_eq_ok_iff, check_eq_ok_iff]

theorem valid_of_ofYaml {text : String} (h : ofYaml text = .ok c) : c.Valid := by
  rw [ofYaml] at h
  split at h
  · cases h
  · obtain ⟨u, hvalid, rfl⟩ := Except.map_eq_ok_iff.1 h
    exact validate_eq_ok_iff.1 hvalid

theorem valid_default : Valid {} := ⟨by decide, nofun, nofun⟩

end PromptDispatch.Config

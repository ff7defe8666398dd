import PromptDispatch.Proofs.Config.Validity
import PromptDispatch.Proofs.Schema.Faults

/-!
# Why configurations are refused

`Config.Valid` says of a configuration that it is accepted, and `Config.Faulty` says why one is not.
The two exclude each other, and every configuration that is refused is refused for a fault that it
has:

* `Config.Profile.faulty_of_check`   what is told of a profile;
* `Config.faulty_of_registry`        what is told of the schemas;
* `Config.faulty_of_validate`        what is told of a configuration;
* `Config.Profile.valid_iff`         the valid profiles, without what looks for faults;
* `Config.accepted_or_faulty`        which are accepted, and what is told of the others.
-/

namespace PromptDispatch.Config

/-! ## profiles -/

inductive Profile.Faulty (p : Profile) (name : String) : ConfigFault → Prop
  | unnamed (hname : name = "") : Faulty p name .emptyAgentName
  | unknownKind (hkind : AgentKind.ofName? (p.kind.getD name) = none) :
    Faulty p name (.unknownKind name (p.kind.getD name))
  | blankCommand (command : String) (hcommand : p.command = some command)
    (hblank : Text.isBlankText command.toList = true) : Faulty p name (.blankCommand name)
  | zeroTimeout (htimeout : p.timeoutSeconds = some 0) : Faulty p name (.zeroTimeout name)

namespace Profile

variable {p : Profile} {name : String} {fault : ConfigFault}

theorem Faulty.not_valid (h : p.Faulty name fault) : ¬p.Valid name := by
  intro hvalid
  cases h with
  | unnamed hname => exact hvalid.named hname
  | unknownKind hkind =>
    have hknown := hvalid.kind
    rw [hkind] at hknown
    cases hknown
  | blankCommand command hcommand hblank =>
    cases hblank.symm.trans (hvalid.command command hcommand)
  | zeroTimeout htimeout => exact hvalid.timeout htimeout

theorem faulty_of_check (h : p.check name = .error fault) : p.Faulty name fault := by
  unfold check at h
  by_cases hname : name = ""
  · rw [if_pos hname] at h
    cases h
    exact .unnamed hname
  · rw [if_neg hname] at h
    rcases Except.bind_eq_error_iff.1 h with hkind | ⟨kind, -, h⟩
    · simp only [agentKind] at hkind
      cases hfound : AgentKind.ofName? (p.kind.getD name) with
      | some k =>
        rw [hfound] at hkind
        cases hkind
      | none =>
        rw [hfound] at hkind
        cases hkind
        exact .unknownKind hfound
    · split at h
      · rename_i hcommand
        cases h
        cases hgiven : p.command with
        | none =>
          rw [hgiven] at hcommand
          cases hcommand
        | some command =>
          rw [hgiven] at hcommand
          exact .blankCommand command hgiven hcommand
      · split at h
        · rename_i htimeout
          cases h
          exact .zeroTimeout htimeout
        · cases h

end Profile

theorem faulty_of_checkAgents {l : List (String × Profile)} {fault : ConfigFault}
    (h : checkAgents l = .error fault) : ∃ e ∈ l, e.2.Faulty e.1 fault := by
  induction l with
  | nil => cases h
  | cons e r ih =>
    unfold checkAgents at h
    rcases Except.bind_eq_error_iff.1 h with he | ⟨-, -, hr⟩
    · exact ⟨e, List.mem_cons_self, Profile.faulty_of_check he⟩
    · obtain ⟨x, hx, hfault⟩ := ih hr
      exact ⟨x, List.mem_cons_of_mem e hx, hfault⟩

/-! ## schemas -/

variable {c : Config}

/-- The labels are those of a map, so that no label is told to be taken. -/
theorem faulty_of_registry {fault : SchemaFault} (h : c.registry = .error fault) :
    ∃ label e, c.schemas.get? label = some e ∧
      Descriptor.Faulty { label, fields := e.fields } fault := by
  have hdistinct : (c.descriptors.map (·.label)).Nodup := by
    rw [map_label_descriptors]
    exact c.schemas.sorted.nodup
  obtain ⟨d, hd, hfault⟩ := Registry.faulty_of_ofDescriptors hdistinct h
  obtain ⟨e, he, rfl⟩ := List.mem_map.1 hd
  exact ⟨e.1, e.2, Dict.get?_eq_some_iff_mem.2 he, hfault⟩

/-! ## configurations -/

/-- what is wrong with a configuration, and the fault that says so -/
inductive Faulty (c : Config) : ConfigFault → Prop
  | zeroDefaultTimeout (htimeout : c.defaults.timeoutSeconds = 0) : Faulty c .zeroDefaultTimeout
  | agent (name : String) (p : Profile) (fault : ConfigFault) (hp : c.agents.get? name = some p)
    (hfault : p.Faulty name fault) : Faulty c fault
  | schema (label : String) (e : SchemaEntry) (fault : SchemaFault)
    (he : c.schemas.get? label = some e)
    (hfault : Descriptor.Faulty { label, fields := e.fields } fault) : Faulty c (.schemas fault)

section
variable {fault : ConfigFault}

theorem Faulty.not_valid (h : c.Faulty fault) : ¬c.Valid := by
  intro hvalid
  cases h with
  | zeroDefaultTimeout htimeout => exact hvalid.timeout htimeout
  | agent name p _ hp hfault => exact hfault.not_valid (hvalid.agents name p hp)
  | schema label e fault he hfault => exact hfault.not_wellFormed (hvalid.schemas label e he)

theorem Faulty.ne_alreadyRegistered (h : c.Faulty fault) (label : String) :
    fault ≠ .schemas (.alreadyRegistered label) := by
  rintro rfl
  cases h with
  | agent name p _ hp hfault => cases hfault
  | schema label e _ he hfault => cases hfault

theorem faulty_of_check (h : c.check = .error fault) : c.Faulty fault := by
  unfold check at h
  by_cases htimeout : c.defaults.timeoutSeconds = 0
  · rw [if_pos htimeout] at h
    cases h
    exact .zeroDefaultTimeout htimeout
  · rw [if_neg htimeout] at h
    rcases Except.bind_eq_error_iff.1 h with hagents | ⟨-, -, h⟩
    · obtain ⟨e, he, hfault⟩ := faulty_of_checkAgents hagents
      exact .agent e.1 e.2 fault (Dict.get?_eq_some_iff_mem.2 he) hfault
    · split at h
      · cases h
      · rename_i e hregistry
        cases h
        obtain ⟨label, entry, he, hfault⟩ := faulty_of_registry hregistry
        exact .schema label entry e he hfault

theorem faulty_of_validate {f : Failure} (h : c.validate = .error f) :
    ∃ fault, f = .config fault ∧ c.Faulty fault := by
  obtain ⟨fault, hcheck, rfl⟩ := Except.mapError_eq_error_iff.1 h
  exact ⟨fault, rfl, faulty_of_check hcheck⟩

end

/-! ## entry by entry -/

theorem Profile.valid_iff {p : Profile} {name : String} :
    p.Valid name ↔ name ≠ "" ∧ (∃ kind : AgentKind, kind.name = p.kind.getD name) ∧
      (∀ command, p.command = some command → Text.trim command.toList ≠ []) ∧
      p.timeoutSeconds ≠ some 0 := by
  simp only [← AgentKind.isSome_ofName?_iff, Text.trim_ne_nil_iff]
  constructor
  · intro h
    exact ⟨h.named, h.kind, h.command, h.timeout⟩
  · rintro ⟨hname, hkind, hcommand, htimeout⟩
    exact ⟨hname, hkind, hcommand, htimeout⟩

/-- **The configurations that are accepted, and what is told of the others.**  A configuration is
accepted exactly if its timeout is not zero, each profile has a name, stands for a built-in agent and
has no blank command and no timeout of zero, and each schema has a label that is not blank and fields
with names that are distinct and not empty.  Another one fails for a fault that it has, which is
never that a label is taken; and one that has a fault is not accepted. -/
theorem accepted_or_faulty (c : Config) :
    (c.validate = .ok () ↔
      c.defaults.timeoutSeconds ≠ 0 ∧
      (∀ name p, c.agents.get? name = some p →
        name ≠ "" ∧ (∃ kind : AgentKind, kind.name = p.kind.getD name) ∧
          (∀ command, p.command = some command → Text.trim command.toList ≠ []) ∧
          p.timeoutSeconds ≠ some 0) ∧
      (∀ label e, c.schemas.get? label = some e →
        Text.trim label.toList ≠ [] ∧ (∀ field ∈ e.fields, field.name ≠ "") ∧
          (e.fields.map (·.name)).Nodup)) ∧
    (∀ f, c.validate = .error f → ∃ fault, f = .config fault ∧ c.Faulty fault ∧
      ∀ label, fault ≠ .schemas (.alreadyRegistered label)) ∧
    (∀ fault, c.Faulty fault → c.validate ≠ .ok ()) := by
  refine ⟨?_, ?_, ?_⟩
  · simp only [validate_eq_ok_iff, ← Profile.valid_iff]
    constructor
    · intro h
      refine ⟨h.timeout, h.agents, fun label e he => ?_⟩
      have hwell := h.schemas label e he
      rw [Descriptor.wellFormed_iff] at hwell
      exact hwell
    · rintro ⟨htimeout, hagents, hschemas⟩
      refine ⟨htimeout, hagents, fun label e he => ?_⟩
      rw [Descriptor.wellFormed_iff]
      exact hschemas label e he
  · intro f h
    obtain ⟨fault, rfl, hfault⟩ := faulty_of_validate h
    exact ⟨fault, rfl, hfault, hfault.ne_alreadyRegistered⟩
  · intro fault h hok
    exact h.not_valid (validate_eq_ok_iff.1 hok)

/-- a profile without a kind of its own, and a schema that has a field twice -/
theorem accepted_or_faulty_repeated :
    let fields := [{ name := "text" }, { name := "body" }, { name := "text", required := false }]
    let c : Config := { agents := .ofList [("codex", {})], schemas := .ofList [("note", { fields })] }
    c.validate = .error (.config (.schemas (.repeatedField "note" "text"))) ∧
      c.Faulty (.schemas (.repeatedField "note" "text")) ∧
      { c with schemas := .empty }.validate = .ok () := by
  intro fields c
  have hrefused : c.validate = .error (.config (.schemas (.repeatedField "note" "text"))) := by
    decide +kernel
  obtain ⟨-, hfaulty, -⟩ := accepted_or_faulty c
  obtain ⟨fault, hfault, hhas, -⟩ := hfaulty _ hrefused
  obtain ⟨haccepted, -⟩ := accepted_or_faulty { c with schemas := .empty }
  cases hfault
  refine ⟨hrefused, hhas, haccepted.2 ⟨by decide, ?_, nofun⟩⟩
  intro name p hp
  have hmem := Dict.get?_eq_some_iff_mem.1 hp
  have hentries : (Dict.ofList [("codex", ({} : Profile))]).entries = [("codex", {})] := rfl
  rw [hentries, List.mem_singleton] at hmem
  cases hmem
  exact ⟨by decide, ⟨.codex, rfl⟩, nofun, by decide⟩

end PromptDispatch.Config

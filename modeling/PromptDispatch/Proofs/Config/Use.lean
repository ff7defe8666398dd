import PromptDispatch.Proofs.Config.Validity
import PromptDispatch.Proofs.Program.Failures
import PromptDispatch.Proofs.Text.Trim

/-!
# What a valid configuration can be used for

Once a configuration is valid nothing that is made of it fails for a reason that lies in it:

* `Config.Valid.selects`         what can come of a selection;
* `Config.Valid.select_isOk_iff`  the agents that are listed are those that can be selected;
* `Config.Valid.runnable`        what is selected can be run;
* `Config.Valid.exists_registry`  the schemas have a registry;
* `Config.Valid.agents_ok`       the agents can be listed;
* `config_usable`                all of these, of every configuration that passes.
-/

namespace PromptDispatch

/-! ## selections -/

/-- What an agent can be run with: at least a second, a command that is not blank, and a kind that
is known by its name. -/
structure Selection.Runnable (s : Selection) : Prop where
  timeout : 1 ≤ s.timeout.seconds
  command : Text.trim s.command.toList ≠ []
  kind : AgentKind.ofName? s.kind.name = some s.kind

theorem Timeout.one_le_seconds_ofSeconds {n : UInt64} (h : n ≠ 0) : 1 ≤ (ofSeconds n).seconds :=
  Nat.one_le_iff_ne_zero.2 fun h₀ => h (UInt64.toNat_inj.1 h₀)

theorem AgentKind.trim_binary_ne_nil (k : AgentKind) : Text.trim k.binary.toList ≠ [] := by
  cases k <;> decide

namespace Config

variable {c : Config}

/-! ## agents -/

theorem mem_availableAgents_iff {name : String} :
    name ∈ c.availableAgents ↔
      (c.agents.get? name).isSome = true ∨ (AgentKind.ofName? name).isSome = true := by
  have hkinds : name ∈ (AgentKind.all.map fun k => (k.name, ())).map Prod.fst ↔
      (AgentKind.ofName? name).isSome = true := by
    rw [AgentKind.ofName?, List.find?_isSome, List.map_map, List.mem_map]
    simp
  rw [availableAgents, Dict.mem_keys_foldl_insert (fun _ => ()), Dict.mem_keys_ofList, hkinds,
    ← Dict.mem_keys_iff]
  rfl

inductive Selects (c : Config) (name : String) : Except Failure Selection → Prop
  | profile (p : Profile) (kind : AgentKind) (hp : c.agents.get? name = some p) :
    Selects c name (.ok
      { kind
        command := p.command.getD kind.binary
        timeout := .ofSeconds (p.timeoutSeconds.getD c.defaults.timeoutSeconds)
        environment := p.environment })
  | builtin (kind : AgentKind) (hp : c.agents.get? name = none)
    (hkind : AgentKind.ofName? name = some kind) :
    Selects c name
      (.ok { kind, command := kind.binary, timeout := .ofSeconds c.defaults.timeoutSeconds })
  | unknown (hp : c.agents.get? name = none) (hkind : AgentKind.ofName? name = none) :
    Selects c name (.error (.resolution (.notSelectable name c.availableAgents)))

theorem Valid.selects (h : c.Valid) (name : String) : c.Selects name (c.select name) := by
  rw [Config.select]
  cases hp : c.agents.get? name with
  | some p =>
    obtain ⟨kind, hkind⟩ := Option.isSome_iff_exists.1 (h.agents name p hp).kind
    rw [← Profile.agentKind_eq_ok_iff] at hkind
    dsimp only
    rw [hkind]
    exact .profile p kind hp
  | none =>
    cases hkind : AgentKind.ofName? name with
    | some kind => exact .builtin kind hp hkind
    | none => exact .unknown hp hkind

theorem Valid.select_isOk_iff (h : c.Valid) (name : String) :
    (c.select name).isOk = true ↔ name ∈ c.availableAgents := by
  rw [mem_availableAgents_iff]
  have hselects := h.selects name
  generalize c.select name = r at hselects ⊢
  cases hselects with
  | profile p kind hp => simp [hp]
  | builtin kind hp hkind => simp [hkind]
  | unknown hp hkind => simp [hp, hkind]

/-! ## what is selected -/

variable {name : String}

theorem Profile.Valid.one_le_seconds {p : Profile} (h : p.Valid name) (hc : c.Valid) :
    1 ≤ (Timeout.ofSeconds (p.timeoutSeconds.getD c.defaults.timeoutSeconds)).seconds := by
  refine Timeout.one_le_seconds_ofSeconds ?_
  cases hn : p.timeoutSeconds with
  | none => exact hc.timeout
  | some n => exact fun h₀ => h.timeout (hn.trans (congrArg some h₀))

theorem Profile.Valid.trim_command_ne_nil {p : Profile} (h : p.Valid name) (kind : AgentKind) :
    Text.trim (p.command.getD kind.binary).toList ≠ [] := by
  cases hs : p.command with
  | none => exact kind.trim_binary_ne_nil
  | some s => exact Text.trim_ne_nil_iff.2 (h.command s hs)

theorem Valid.runnable (h : c.Valid) {s : Selection} (hs : c.select name = .ok s) : s.Runnable := by
  have hselects := h.selects name
  rw [hs] at hselects
  cases hselects with
  | profile p kind hp =>
    have hvalid := h.agents name p hp
    exact ⟨hvalid.one_le_seconds h, hvalid.trim_command_ne_nil kind, kind.ofName?_name⟩
  | builtin kind hp hkind =>
    exact ⟨Timeout.one_le_seconds_ofSeconds h.timeout, kind.trim_binary_ne_nil, kind.ofName?_name⟩

/-! ## schemas -/

theorem find?_descriptors (c : Config) (l : String) :
    (c.descriptors.find? fun d => d.label = l) =
      (c.schemas.get? l).map fun e => { label := l, fields := e.fields } := by
  rw [descriptors, Dict.get?]
  induction c.schemas.entries with
  | nil => rfl
  | cons e r ih =>
    rw [List.map_cons, List.find?_cons, Entries.lookup_cons]
    by_cases h : l = e.1
    · rw [if_pos h, h]
      simp
    · rw [if_neg h, ih]
      simp [Ne.symm h]

/-- the registry has the fields of each schema under its label, and nothing else -/
theorem Valid.exists_registry (h : c.Valid) :
    ∃ r, c.registry = .ok r ∧ r.labels = c.schemas.keys ∧
      ∀ l, r.lookup l = (c.schemas.get? l).map fun e => { label := l, fields := e.fields } := by
  obtain ⟨r, hr⟩ := exists_registry_iff.2 h.schemas
  have hsorted : (c.descriptors.map (·.label)).Pairwise (· < ·) := by
    rw [map_label_descriptors]
    exact c.schemas.keys_sorted
  refine ⟨r, hr, ?_, fun l => ?_⟩
  · rw [Registry.labels_ofDescriptors hr hsorted, map_label_descriptors]
  · rw [Registry.lookup_ofDescriptors hr, find?_descriptors]

/-! ## the list of agents -/

open Program

theorem Valid.isOk_select (h : c.Valid) {p : Profile} (hp : c.agents.get? name = some p) :
    (c.select name).isOk = true :=
  (h.select_isOk_iff name).2 (mem_availableAgents_iff.2 (.inl (by rw [hp]; rfl)))

/-- the agents of a valid configuration are listed to the end -/
theorem Valid.agents_ok (h : c.Valid) (p : Progress) : ((Program.agents c).run p).1 = .ok () := by
  have hgoes : Job.Goes (fun r _ => r = .ok ()) (Program.agents c) := by
    refine goes_agents (fun e he f hf => ?_) rfl
    have hok := h.isOk_select (Dict.get?_eq_some_iff_mem.2 he)
    rw [hf] at hok
    cases hok
  exact hgoes.result p

/-! ## all together -/

/-- What a configuration is good for.  Its agents are listed in order, each once, and they are those
that can be selected; what is selected can be run, and its run does not fail for want of an agent;
its schemas have a registry with their fields and nothing else; and its agents can be listed. -/
structure Usable (c : Config) : Prop where
  selectable : ∀ name, (c.select name).isOk = true ↔ name ∈ c.availableAgents
  ascending : c.availableAgents.Pairwise (· < ·)
  runnable : ∀ name s, c.select name = .ok s → s.Runnable
  addressed : ∀ o r q p n,
    ((Program.run o c r q).run p).1 ≠ .error (.failure (.resolution (.unknownAgent n)))
  registry : ∃ r, c.registry = .ok r ∧ r.labels = c.schemas.keys ∧
    ∀ l, r.lookup l = (c.schemas.get? l).map fun e => { label := l, fields := e.fields }
  listed : ∀ p, ((Program.agents c).run p).1 = .ok ()

theorem Valid.usable (h : c.Valid) : c.Usable where
  selectable := h.select_isOk_iff
  ascending := Dict.keys_sorted _
  runnable _ _ := h.runnable
  addressed o r q p n hfault := (addressed_run o c r q).result p _ hfault n rfl
  registry := h.exists_registry
  listed := h.agents_ok

theorem valid_of_loadConfig? {o : Outside} {path : String}
    (h : loadConfig? o path = .ok (some c)) : c.Valid := by
  rw [loadConfig?] at h
  split at h
  · cases h
  · cases hread : o.readFile path with
    | error e =>
      rw [hread] at h
      cases h
    | ok text =>
      rw [hread] at h
      obtain ⟨c', hyaml, hc⟩ := Except.map_eq_ok_iff.1 h
      cases hc
      exact valid_of_ofYaml hyaml

end Config

/-- **A configuration that passes can be used**: one that was validated, one that is read from a
text or a file, and the one that is used without a file. -/
theorem config_usable :
    (∀ c : Config, c.validate = .ok () → c.Usable) ∧
      (∀ text c, Config.ofYaml text = .ok c → c.Usable) ∧
      (∀ o path c, Program.loadConfig? o path = .ok (some c) → c.Usable) ∧
      ({} : Config).Usable :=
  ⟨fun _ h => (Config.validate_eq_ok_iff.1 h).usable, fun _ _ h => (Config.valid_of_ofYaml h).usable,
    fun _ _ _ h => (Config.valid_of_loadConfig? h).usable, Config.valid_default.usable⟩

/-- a profile that takes the name of a built-in agent for another one, and one with settings -/
def shadowingConfig : Config where
  agents := .ofList [("claude", { kind := some "gemini" }),
    ("fast", { kind := some "codex", command := some "codex --quick", timeoutSeconds := some 30 })]
  schemas := .ofList [("note", { fields := [{ name := "text" }] })]

theorem config_usable_shadowing :
    shadowingConfig.availableAgents = ["claude", "codex", "fast", "gemini"] ∧
      (shadowingConfig.select "claude").isOk = true ∧
      (shadowingConfig.select "aider").isOk = false ∧
      (∃ r, shadowingConfig.registry = .ok r ∧
        r.lookup "note" = some { label := "note", fields := [{ name := "text" }] }) ∧
      ∃ c, Config.ofYaml "agents:\n  claude:\n    kind: gemini\n" = .ok c ∧ c.Usable := by
  obtain ⟨hvalidated, hread, -⟩ := config_usable
  have h := hvalidated shadowingConfig (by decide +kernel)
  have hlisted : shadowingConfig.availableAgents = ["claude", "codex", "fast", "gemini"] := by
    decide +kernel
  refine ⟨hlisted, ?_, ?_, ?_, ?_⟩
  · rw [h.selectable, hlisted]
    decide
  · rw [← Bool.not_eq_true, h.selectable, hlisted]
    decide
  · obtain ⟨r, hr, -, hlookup⟩ := h.registry
    refine ⟨r, hr, ?_⟩
    rw [hlookup]
    decide +kernel
  · have hok : (Config.ofYaml "agents:\n  claude:\n    kind: gemini\n").isOk = true := by
      decide +kernel
    obtain ⟨c, hc⟩ := Except.isOk_iff.1 hok
    exact ⟨c, hc, hread _ c hc⟩

end PromptDispatch

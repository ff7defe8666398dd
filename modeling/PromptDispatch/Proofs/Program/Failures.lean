import PromptDispatch.Program.Commands
import PromptDispatch.Proofs.Agent.Resolution
import PromptDispatch.Proofs.Program.Jobs
import PromptDispatch.Proofs.Schema.Validation

/-!
# How a command fails

Each part of a command fails with failures of its own kind, which are listed here one part after the
other.

* `goes_agents`     listing agents fails only where one cannot be selected;
* `addressed_run`   no run sends a prompt to an agent that is not known.
-/

namespace PromptDispatch.Program

/-! ## before a process -/

theorem failure_of_select {c : Config} {name : String} {f : Failure}
    (h : c.select name = .error f) :
    (∃ fault, f = .config fault) ∨ f = .resolution (.notSelectable name c.availableAgents) := by
  rw [Config.select] at h
  split at h
  · obtain ⟨fault, -, rfl⟩ := Except.mapError_eq_error_iff.1 (Except.map_eq_error_iff.1 h)
    exact .inl ⟨fault, rfl⟩
  · split at h
    · cases h
    · cases h
      exact .inr rfl

theorem failure_of_requireSchema {r : Registry} {q : Option String} {f : Failure}
    (h : q.mapM (requireSchema r) = .error f) : ∃ fault, f = .schema fault := by
  cases q with
  | none => cases h
  | some label =>
    have hrequire : requireSchema r label = .error f := Except.map_eq_error_iff.1 h
    rw [requireSchema] at hrequire
    split at hrequire
    · cases hrequire
    · cases hrequire
      exact ⟨_, rfl⟩

theorem failure_of_chooseTimeout {given : Option UInt64} {usual : Timeout} {f : Failure}
    (h : chooseTimeout given usual = .error f) : f = .config .zeroTimeoutOption := by
  cases given with
  | none => cases h
  | some n =>
    rw [chooseTimeout] at h
    split at h
    · cases h
      rfl
    · cases h

/-! ## after a process -/

section
variable {P : Except Fault Unit → List Effect → Prop}

theorem goes_printResult (schema : Option Descriptor) (output : String)
    (hviolation : ∀ label ps, P (.error (.failure (.violation label ps))) [])
    (hok : P (.ok ()) []) : Job.Goes P (printResult schema output) := by
  cases schema with
  | none => exact .write _ hok
  | some d =>
    refine .bind (.ofResult (fun f hf => ?_) fun v _ => .writeLine _ hok)
    obtain ⟨ps, rfl⟩ := Descriptor.violation_of_validateOutput hf
    exact hviolation d.label ps

/-! ## listing agents -/

variable {c : Config}

theorem goes_writeProfile {name : String} (p : Config.Profile)
    (herror : ∀ f, c.select name = .error f → P (.error (.failure f)) []) (hok : P (.ok ()) []) :
    Job.Goes P (writeProfile c name p) := by
  refine .bind (.ofResult herror fun s _ => .line (.line (.line (.line ?_))))
  split
  · exact .writeLine _ hok
  · exact .pure hok

theorem goes_writeProfiles {l : List (String × Config.Profile)}
    (herror : ∀ e ∈ l, ∀ f, c.select e.1 = .error f → P (.error (.failure f)) [])
    (hok : P (.ok ()) []) : Job.Goes P (writeProfiles c l) := by
  induction l with
  | nil => exact .pure hok
  | cons e r ih =>
    obtain ⟨he, hr⟩ := List.forall_mem_cons.1 herror
    exact .bind (goes_writeProfile e.2 he (ih hr))

theorem goes_agents (herror : ∀ e ∈ c.agents.entries, ∀ f, c.select e.1 = .error f →
    P (.error (.failure f)) []) (hok : P (.ok ()) []) : Job.Goes P (agents c) := by
  refine .line (.line (.bind (.forM (fun k => .writeLine _) _ ?_)))
  change Job.Goes P _
  split
  · exact .line (.line (.line (goes_writeProfiles herror hok)))
  · exact .pure hok

end

/-! ## reading records -/

theorem failure_of_decodeLines {line : Nat} {ls : List (List Char)} {f : Failure}
    (h : decodeLines line ls = .error f) : ∃ n text fault, f = .decode n text fault := by
  induction ls generalizing line with
  | nil => cases h
  | cons l r ih =>
    rw [decodeLines] at h
    split at h
    · exact ih h
    · split at h
      · cases h
        exact ⟨_, _, _, rfl⟩
      · exact ih (Except.map_eq_error_iff.1 h)

/-! ## agents that are not known -/

/-- the fault is not that a prompt was sent to an agent that is not known -/
def Fault.Addressed (f : Fault) : Prop := ∀ n, f ≠ .failure (.resolution (.unknownAgent n))

theorem addressed_of_execute {pathExists : String → Bool} {kind : AgentKind} {s : Surroundings}
    {ambient : List RawVariable} {command prompt : String} {overrides : Dict String} {f : Failure}
    (h : (execute (builtinResolver pathExists) s ambient kind.name command prompt overrides).1 =
      .error f) : (Fault.failure f).Addressed := by
  -- no text, launch or empty answer fails this way, so that the resolver is what is left
  rintro n ⟨⟩
  cases executionFails_of_execute h with
  | refused hwords =>
    obtain ⟨fault, hresolve, hfault⟩ := Except.mapError_eq_error_iff.1 hwords
    cases hfault
    exact ne_unknownAgent_of_resolve hresolve n rfl
  | launch l hlabel hl => rcases hl.exitCode with h | h <;> cases h

/-- No run sends a prompt to an agent that is not known. -/
theorem addressed_run (o : Outside) (c : Config) (r : Registry) (q : RunRequest) :
    Job.Goes (fun r _ => ∀ f, r = .error f → f.Addressed) (run o c r q) := by
  refine .bind (.ofResult (fun f hf => ?_) fun selection _ => ?_)
  · rintro - ⟨⟩
    rcases failure_of_select hf with ⟨fault, rfl⟩ | rfl <;> exact fun n => nofun
  refine .bind (.ofResult (fun f hf => ?_) fun schema _ => ?_)
  · rintro - ⟨⟩
    obtain ⟨fault, rfl⟩ := failure_of_requireSchema hf
    exact fun n => nofun
  refine .bind (.ofResult (fun f hf => ?_) fun timeout _ => ?_)
  · rintro - ⟨⟩
    rw [failure_of_chooseTimeout hf]
    exact fun n => nofun
  refine .bind (.readPrompt (fun e => ?_) (fun prompt => ?_) _)
  · rintro - ⟨⟩
    exact fun n => nofun
  refine .bind (.installHandlers (fun signal reason => ?_) ?_)
  · rintro - ⟨⟩
    exact fun n => nofun
  refine .bind (.perform (fun f hf => ?_) fun output _ => ?_)
  · rintro - ⟨⟩
    exact addressed_of_execute hf
  refine goes_printResult schema output (fun label ps => ?_) nofun
  rintro - ⟨⟩
  exact fun n => nofun

end PromptDispatch.Program

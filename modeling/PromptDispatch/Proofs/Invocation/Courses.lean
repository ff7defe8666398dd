import PromptDispatch.Invocation.Dispatch
import PromptDispatch.Proofs.Except
import PromptDispatch.Proofs.Invocation.Launch

/-!
# The courses of an invocation

An invocation checks its texts, gets the words that come before the prompt and launches one process
with these words and the prompt.  `Execution` and `CommandExecution` list what can come of it,
`Invoked` what both have in common, and `ExecutionFails` the failures of the first.
-/

namespace PromptDispatch

/-! ## texts -/

theorem requireText_eq_ok_iff {field text : String} :
    requireText field text = .ok () ↔ text ≠ "" := by
  rw [requireText]
  split <;> simp_all

theorem requireText_eq_error {field text : String} {f : Failure}
    (h : requireText field text = .error f) : f = .validation field := by
  rw [requireText] at h
  split at h
  · cases h
    rfl
  · cases h

theorem checkAgentTexts_eq_ok_iff {agent command prompt : String} :
    checkAgentTexts agent command prompt = .ok () ↔ agent ≠ "" ∧ command ≠ "" ∧ prompt ≠ "" := by
  simp only [checkAgentTexts, Except.check_bind_eq_ok_iff, requireText_eq_ok_iff]

theorem validation_of_checkAgentTexts {agent command prompt : String} {f : Failure}
    (h : checkAgentTexts agent command prompt = .error f) : ∃ field, f = .validation field := by
  rcases Except.bind_eq_error_iff.1 h with h | ⟨-, -, h⟩
  · exact ⟨_, requireText_eq_error h⟩
  · rcases Except.bind_eq_error_iff.1 h with h | ⟨-, -, h⟩
    · exact ⟨_, requireText_eq_error h⟩
    · exact ⟨_, requireText_eq_error h⟩

def checkCommandTexts (command prompt : String) : Except Failure Unit :=
  (requireText "command" command).bind fun _ => requireText "prompt" prompt

theorem checkCommandTexts_eq_ok_iff {command prompt : String} :
    checkCommandTexts command prompt = .ok () ↔ command ≠ "" ∧ prompt ≠ "" := by
  simp only [checkCommandTexts, Except.check_bind_eq_ok_iff, requireText_eq_ok_iff]

theorem validation_of_checkCommandTexts {command prompt : String} {f : Failure}
    (h : checkCommandTexts command prompt = .error f) : ∃ field, f = .validation field := by
  rcases Except.bind_eq_error_iff.1 h with h | ⟨-, -, h⟩
  · exact ⟨_, requireText_eq_error h⟩
  · exact ⟨_, requireText_eq_error h⟩

/-! ## courses -/

section
variable (resolver : Resolver) (s : Surroundings) (ambient : List RawVariable)
  (agent command prompt : String) (overrides : Dict String)

/-- what an agent's invocation meets, with its result and its effects -/
inductive Execution : Traced (Except Failure String) → Prop
  | invalid (e : Failure) (htexts : checkAgentTexts agent command prompt = .error e) :
    Execution (.error e, [])
  | refused (e : Failure) (htexts : checkAgentTexts agent command prompt = .ok ())
    (hwords : resolver agent command .oneShot = .error e) :
    Execution (.error e, [.resolve agent command .oneShot])
  | wordless (htexts : checkAgentTexts agent command prompt = .ok ())
    (hwords : resolver agent command .oneShot = .ok []) :
    Execution (.error (.resolution (.noCommand agent)), [.resolve agent command .oneShot])
  | launched (l : Launch) (program : String) (words : List String)
    (htexts : checkAgentTexts agent command prompt = .ok ())
    (hwords : resolver agent command .oneShot = .ok (program :: words))
    (hl : l = promptLaunch agent program words prompt (processEnvironment ambient overrides)) :
    Execution ((l.run s).1.map fun raw => String.ofList (normalize agent raw.toList),
      .resolve agent command .oneShot :: (l.run s).2)

theorem execution : Execution resolver s ambient agent command prompt overrides
    (execute resolver s ambient agent command prompt overrides) := by
  rw [execute]
  cases htexts : checkAgentTexts agent command prompt with
  | error e => exact .invalid e htexts
  | ok u =>
    cases hwords : resolver agent command .oneShot with
    | error e => exact .refused e htexts hwords
    | ok argv =>
      cases argv with
      | nil => exact .wordless htexts hwords
      | cons program words => exact .launched _ program words htexts hwords rfl

inductive CommandExecution : Traced (Except Failure String) → Prop
  | invalid (e : Failure) (htexts : checkCommandTexts command prompt = .error e) :
    CommandExecution (.error e, [])
  | wordless (htexts : checkCommandTexts command prompt = .ok ())
    (hwords : Text.words command.toList = []) :
    CommandExecution (.error (.validation "command"), [])
  | launched (l : Launch) (program : List Char) (words : List (List Char))
    (htexts : checkCommandTexts command prompt = .ok ())
    (hwords : Text.words command.toList = program :: words)
    (hl : l = promptLaunch command (String.ofList program) (words.map String.ofList) prompt
      (processEnvironment ambient overrides)) :
    CommandExecution (l.run s)

theorem commandExecution : CommandExecution s ambient command prompt overrides
    (executeCommand s ambient command prompt overrides) := by
  rw [executeCommand, ← checkCommandTexts]
  cases htexts : checkCommandTexts command prompt with
  | error e => exact .invalid e htexts
  | ok u =>
    cases hwords : Text.words command.toList with
    | nil => exact .wordless htexts hwords
    | cons program words => exact .launched _ program words htexts hwords rfl

/-- what both kinds of invocation come to: a refusal before anything is started, or a launch that
fits, of which the output may be changed -/
inductive Invoked (Fits : Launch → Prop) : Traced (Except Failure String) → Prop
  | refused (f : Failure) (asked : List Effect) (hcode : f.exitCode = 1)
    (hasked : ∀ e ∈ asked, e.resolution?.isSome = true) : Invoked Fits (.error f, asked)
  | launched (l : Launch) (clean : String → String) (asked : List Effect) (hl : Fits l)
    (hasked : ∀ e ∈ asked, e.resolution?.isSome = true) :
    Invoked Fits ((l.run s).1.map clean, asked ++ (l.run s).2)

theorem Invoked.mono {s : Surroundings} {Fits Fits' : Launch → Prop}
    {t : Traced (Except Failure String)} (h : Invoked s Fits t) (hfits : ∀ l, Fits l → Fits' l) :
    Invoked s Fits' t := by
  cases h with
  | refused f asked hcode hasked => exact .refused f asked hcode hasked
  | launched l clean asked hl hasked => exact .launched l clean asked (hfits l hl) hasked

theorem invoked_execute (pathExists : String → Bool) :
    Invoked s (fun l => ∃ program words, l =
        promptLaunch agent program words prompt (processEnvironment ambient overrides))
      (execute (builtinResolver pathExists) s ambient agent command prompt overrides) := by
  have hcourse := execution (builtinResolver pathExists) s ambient agent command prompt overrides
  generalize execute (builtinResolver pathExists) s ambient agent command prompt overrides = t
    at hcourse ⊢
  cases hcourse with
  | invalid e htexts =>
    obtain ⟨field, rfl⟩ := validation_of_checkAgentTexts htexts
    exact .refused _ _ rfl nofun
  | refused e htexts hwords =>
    obtain ⟨fault, -, rfl⟩ := Except.mapError_eq_error_iff.1 hwords
    exact .refused _ _ rfl (by simp [Effect.resolution?])
  | wordless => exact .refused _ _ rfl (by simp [Effect.resolution?])
  | launched l program words htexts hwords hl =>
    exact .launched l _ [.resolve agent command .oneShot] ⟨program, words, hl⟩
      (by simp [Effect.resolution?])

theorem invoked_executeCommand :
    Invoked s (fun l => ∃ program words, l =
        promptLaunch command program words prompt (processEnvironment ambient overrides))
      (executeCommand s ambient command prompt overrides) := by
  have hcourse := commandExecution s ambient command prompt overrides
  generalize executeCommand s ambient command prompt overrides = t at hcourse ⊢
  cases hcourse with
  | invalid e htexts =>
    obtain ⟨field, rfl⟩ := validation_of_checkCommandTexts htexts
    exact .refused _ _ rfl nofun
  | wordless => exact .refused _ _ rfl nofun
  | launched l program words htexts hwords hl =>
    have hrun : l.run s = ((l.run s).1.map id, [] ++ (l.run s).2) := by
      rw [Except.map_id]
      rfl
    rw [hrun]
    exact .launched l id [] ⟨_, _, hl⟩ nofun

end

/-! ## failures -/

/-- the failures of an agent's invocation: a text is empty, its resolver gives no words, or its
launch fails -/
inductive ExecutionFails (resolver : Resolver) (agent command : String) : Failure → Prop
  | validation (field : String) : ExecutionFails resolver agent command (.validation field)
  | refused {f : Failure} (hwords : resolver agent command .oneShot = .error f) :
    ExecutionFails resolver agent command f
  | wordless : ExecutionFails resolver agent command (.resolution (.noCommand agent))
  | launch {f : Failure} (l : Launch) (hlabel : l.label = agent) (h : l.Fails f) :
    ExecutionFails resolver agent command f

theorem executionFails_of_execute {resolver : Resolver} {s : Surroundings}
    {ambient : List RawVariable} {agent command prompt : String} {overrides : Dict String}
    {f : Failure} (h : (execute resolver s ambient agent command prompt overrides).1 = .error f) :
    ExecutionFails resolver agent command f := by
  have hcourse := execution resolver s ambient agent command prompt overrides
  generalize execute resolver s ambient agent command prompt overrides = t at h hcourse
  cases hcourse with
  | invalid e htexts =>
    cases h
    obtain ⟨field, rfl⟩ := validation_of_checkAgentTexts htexts
    exact .validation field
  | refused e htexts hwords =>
    cases h
    exact .refused hwords
  | wordless =>
    cases h
    exact .wordless
  | launched l program words htexts hwords hl =>
    have hlabel : l.label = agent := by
      rw [hl]
      rfl
    exact .launch l hlabel (Launch.fails_of_run (Except.map_eq_error_iff.1 h))

end PromptDispatch

import PromptDispatch.Proofs.Invocation.Courses

/-!
# What an invocation does not tell

The prompt and the variables of an invocation go into its request and nowhere else: two invocations
that differ in them alone have the same result and the same log if the operating system and the
context answer both alike.

* `execute_alike`, `executeCommand_alike`   for each kind of invocation;
* `invocation_alike`   for both.
-/

namespace PromptDispatch

/-! ## texts -/

section
variable {prompt prompt' : String} (hprompt : prompt ≠ "") (hprompt' : prompt' ≠ "")
include hprompt hprompt'

theorem requireText_congr (field : String) :
    requireText field prompt = requireText field prompt' := by
  rw [requireText_eq_ok_iff.2 hprompt, requireText_eq_ok_iff.2 hprompt']

theorem checkAgentTexts_congr (agent command : String) :
    checkAgentTexts agent command prompt = checkAgentTexts agent command prompt' := by
  rw [checkAgentTexts, checkAgentTexts, requireText_congr hprompt hprompt']

end

/-! ## two invocations -/

section
variable {s s' : Surroundings} {ambient ambient' : List RawVariable}
  {agent command prompt prompt' : String} {overrides overrides' : Dict String}

theorem promptLaunch_alike (label program : String) (words : List String)
    {environment environment' : Option (List (String × String))}
    (h : s.Alike s' ((promptLaunch label program words prompt environment).run s).2
      ((promptLaunch label program words prompt' environment').run s').2) :
    ((promptLaunch label program words prompt environment).run s).1 =
        ((promptLaunch label program words prompt' environment').run s').1 ∧
      eventsOf ((promptLaunch label program words prompt environment).run s).2 =
        eventsOf ((promptLaunch label program words prompt' environment').run s').2 :=
  Launch.run_alike _ (promptLaunch label program words prompt' environment').request h

theorem execute_alike (resolver : Resolver) (hprompt : prompt ≠ "") (hprompt' : prompt' ≠ "")
    (h : s.Alike s' (execute resolver s ambient agent command prompt overrides).2
      (execute resolver s' ambient' agent command prompt' overrides').2) :
    (execute resolver s ambient agent command prompt overrides).1 =
        (execute resolver s' ambient' agent command prompt' overrides').1 ∧
      eventsOf (execute resolver s ambient agent command prompt overrides).2 =
        eventsOf (execute resolver s' ambient' agent command prompt' overrides').2 := by
  revert h
  rw [execute, execute, ← checkAgentTexts_congr hprompt hprompt']
  cases checkAgentTexts agent command prompt with
  | error e => exact fun _ => ⟨rfl, rfl⟩
  | ok u =>
    cases resolver agent command .oneShot with
    | error e => exact fun _ => ⟨rfl, rfl⟩
    | ok argv =>
      cases argv with
      | nil => exact fun _ => ⟨rfl, rfl⟩
      | cons program words =>
        intro h
        obtain ⟨hresult, hevents⟩ :=
          promptLaunch_alike agent program words ⟨h.context, h.file, h.spawn⟩
        exact ⟨congrArg (Except.map _) hresult, hevents⟩

theorem executeCommand_alike (hprompt : prompt ≠ "") (hprompt' : prompt' ≠ "")
    (h : s.Alike s' (executeCommand s ambient command prompt overrides).2
      (executeCommand s' ambient' command prompt' overrides').2) :
    (executeCommand s ambient command prompt overrides).1 =
        (executeCommand s' ambient' command prompt' overrides').1 ∧
      eventsOf (executeCommand s ambient command prompt overrides).2 =
        eventsOf (executeCommand s' ambient' command prompt' overrides').2 := by
  revert h
  rw [executeCommand, executeCommand, ← requireText_congr hprompt hprompt']
  cases (requireText "command" command).bind fun _ => requireText "prompt" prompt with
  | error e => exact fun _ => ⟨rfl, rfl⟩
  | ok u =>
    cases Text.words command.toList with
    | nil => exact fun _ => ⟨rfl, rfl⟩
    | cons program words => exact promptLaunch_alike command _ _

/-- **Neither the prompt nor a variable is told.**  Two invocations with the same agent, command and
resolver have the same output or the same failure, and the same lines in the log, if they are
answered alike, whatever their prompts and variables are. -/
theorem invocation_alike (resolver : Resolver) (hprompt : prompt ≠ "") (hprompt' : prompt' ≠ "") :
    (s.Alike s' (execute resolver s ambient agent command prompt overrides).2
        (execute resolver s' ambient' agent command prompt' overrides').2 →
      (execute resolver s ambient agent command prompt overrides).1 =
          (execute resolver s' ambient' agent command prompt' overrides').1 ∧
        eventsOf (execute resolver s ambient agent command prompt overrides).2 =
          eventsOf (execute resolver s' ambient' agent command prompt' overrides').2) ∧
    (s.Alike s' (executeCommand s ambient command prompt overrides).2
        (executeCommand s' ambient' command prompt' overrides').2 →
      (executeCommand s ambient command prompt overrides).1 =
          (executeCommand s' ambient' command prompt' overrides').1 ∧
        eventsOf (executeCommand s ambient command prompt overrides).2 =
          eventsOf (executeCommand s' ambient' command prompt' overrides').2) :=
  ⟨execute_alike resolver hprompt hprompt', executeCommand_alike hprompt hprompt'⟩

end

/-- a child that fails whatever it is asked, and a prompt and a token that are not told -/
theorem invocation_alike_failed :
    let s : Surroundings :=
      { spawn := fun _ => .ok ⟨[⟨.running, none⟩, ⟨.exited (.ofExit 2), none⟩], .ok [81], by decide⟩ }
    let resolver : Resolver := fun _ _ _ => .ok ["claude", "-p"]
    let failure := Failure.execution "claude" "claude -p <prompt>" (.exit (.ofExit 2)) "Q"
    (execute resolver s [] "claude" "claude" "hi" .empty).1 = .error failure ∧
      (execute resolver s [] "claude" "claude" "my password"
        (Dict.empty.insert "TOKEN" "secret")).1 = .error failure ∧
      (executeCommand s [] "claude -p" "hi" .empty).1 =
        (executeCommand s [] "claude -p" "my password" (Dict.empty.insert "TOKEN" "secret")).1 := by
  intro s resolver failure
  have hleft : (execute resolver s [] "claude" "claude" "hi" .empty).1 = .error failure := rfl
  have h := @invocation_alike s s [] [] "claude" "claude" "hi" "my password" .empty
    (Dict.empty.insert "TOKEN" "secret") resolver (by decide) (by decide)
  have hcommand := @invocation_alike s s [] [] "" "claude -p" "hi" "my password" .empty
    (Dict.empty.insert "TOKEN" "secret") resolver (by decide) (by decide)
  have halike : ∀ done done', s.Alike s done done' := fun _ _ =>
    ⟨rfl, rfl, fun _ _ _ _ => .started rfl rfl⟩
  exact ⟨hleft, (h.1 (halike _ _)).1.symm.trans hleft, (hcommand.2 (halike _ _)).1⟩

end PromptDispatch

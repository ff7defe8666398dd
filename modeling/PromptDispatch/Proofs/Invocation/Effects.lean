import PromptDispatch.Proofs.Invocation.Courses

/-!
# What an invocation does

`SpawnsOnce` says which process is asked for, and when:

* `SpawnsOnce.of_launch`, `SpawnsOnce.of_no_words`   with words before the prompt, and without;
* `resolution_of_execute`   what a resolver is asked;
* `spawnsOnce_execute`, `spawnsOnce_executeCommand`   what the operating system is asked;
* `effects_of_invocation`   the law of both kinds of invocation.
-/

namespace PromptDispatch

/-! ## the process that is asked for -/

/-- Of all that was done, one process at most was asked for.  It was asked for if there were words
to start it with, the context did not stop it and there was a file for its output; its arguments are
these words and then the prompt.  Without it nothing was done to the operating system. -/
structure SpawnsOnce (s : Surroundings) (words : Option (List String)) (prompt : String)
    (environment : Option (List (String × String))) (done : List Effect) : Prop where
  length_le : (requestsOf done).length ≤ 1
  mem_iff : ∀ r, r ∈ requestsOf done ↔
    (∃ ws, words = some ws ∧ ws ≠ [] ∧ r.argv = ws ++ [prompt]) ∧ r.environment = environment ∧
      s.interruption = none ∧ s.captureFile = .ok ()
  started : ∀ r started, .spawn r started ∈ done → started = (s.spawn r).isOk
  without : requestsOf done = [] → ∀ e ∈ done, e.resolution?.isSome = true ∨ e = .openCapture

section
variable {s : Surroundings} {prompt : String} {environment : Option (List (String × String))}

theorem SpawnsOnce.of_no_words {words : Option (List String)} {done : List Effect}
    (hwords : ∀ ws, words = some ws → ws = []) (hdone : ∀ e ∈ done, e.resolution?.isSome = true) :
    SpawnsOnce s words prompt environment done := by
  have hspawn : ∀ e ∈ done, e.request? = none := fun e he =>
    Effect.request?_of_resolution (hdone e he)
  have hnone : requestsOf done = [] := requestsOf_of_asked hdone
  refine ⟨by rw [hnone]; exact Nat.zero_le 1, fun r => ?_, fun r started h => ?_, fun _ e he => ?_⟩
  · rw [hnone]
    constructor
    · intro h
      cases h
    · rintro ⟨⟨ws, hws, hne, -⟩, -⟩
      exact absurd (hwords ws hws) hne
  · cases hspawn _ h
  · exact .inl (hdone e he)

theorem SpawnRequest.eq_of_argv {r r' : SpawnRequest} (hargv : r.argv = r'.argv)
    (henvironment : r.environment = r'.environment) : r = r' := by
  obtain ⟨program, arguments, env⟩ := r
  obtain ⟨program', arguments', env'⟩ := r'
  cases hargv
  cases henvironment
  rfl

/-- a launch with the words before a prompt asks for the process with the words and the prompt -/
theorem SpawnsOnce.of_launch (label program : String) (words : List String) :
    SpawnsOnce s (some (program :: words)) prompt environment
      ((promptLaunch label program words prompt environment).run s).2 := by
  generalize hl : promptLaunch label program words prompt environment = l
  have hargv : l.request.argv = (program :: words) ++ [prompt] := by
    rw [← hl]
    rfl
  have henvironment : l.request.environment = environment := by
    rw [← hl]
    rfl
  rcases Launch.requestsOf_run l s with ⟨hcontext, hfile, hdone⟩ | ⟨hready, hdone, honly⟩
  · refine ⟨by rw [hdone]; exact Nat.le_refl 1, fun r => ?_, fun r started h => l.started_eq h, ?_⟩
    · rw [hdone, List.mem_singleton]
      constructor
      · rintro rfl
        exact ⟨⟨_, rfl, List.cons_ne_nil _ _, hargv⟩, henvironment, hcontext, hfile⟩
      · rintro ⟨⟨ws, hws, -, hr⟩, hr', -⟩
        cases hws
        exact SpawnRequest.eq_of_argv (hr.trans hargv.symm) (hr'.trans henvironment.symm)
    · intro h
      rw [hdone] at h
      cases h
  · refine ⟨by rw [hdone]; exact Nat.zero_le 1, fun r => ?_, fun r started h => l.started_eq h,
      fun _ e he => .inr (honly e he)⟩
    rw [hdone]
    constructor
    · intro h
      cases h
    · rintro ⟨-, -, hcontext, hfile⟩
      exact absurd ⟨hcontext, hfile⟩ hready

theorem SpawnsOnce.cons {words : Option (List String)} {done : List Effect} {e : Effect}
    (h : SpawnsOnce s words prompt environment done) (he : e.resolution?.isSome = true) :
    SpawnsOnce s words prompt environment (e :: done) := by
  have hdone : requestsOf (e :: done) = requestsOf done :=
    List.filterMap_cons_none (Effect.request?_of_resolution he)
  refine ⟨by rw [hdone]; exact h.length_le, fun r => by rw [hdone]; exact h.mem_iff r, ?_, ?_⟩
  · intro r started hr
    rcases List.mem_cons.1 hr with rfl | hr
    · cases he
    · exact h.started r started hr
  · intro hnone
    rw [hdone] at hnone
    exact List.forall_mem_cons.2 ⟨.inl he, h.without hnone⟩

end

/-! ## both kinds of invocation -/

def agentWords? (resolver : Resolver) (agent command prompt : String) : Option (List String) :=
  if agent ≠ "" ∧ command ≠ "" ∧ prompt ≠ "" then (resolver agent command .oneShot).toOption
  else none

section
variable {resolver : Resolver} {agent command prompt : String} {e : Failure}

theorem agentWords?_of_ok (h : checkAgentTexts agent command prompt = .ok ()) :
    agentWords? resolver agent command prompt = (resolver agent command .oneShot).toOption :=
  if_pos (checkAgentTexts_eq_ok_iff.1 h)

theorem not_given_of_error (h : checkAgentTexts agent command prompt = .error e) :
    ¬(agent ≠ "" ∧ command ≠ "" ∧ prompt ≠ "") := by
  rw [← checkAgentTexts_eq_ok_iff, h]
  exact nofun

end

def commandWords? (command prompt : String) : Option (List String) :=
  if command ≠ "" ∧ prompt ≠ "" then some ((Text.words command.toList).map String.ofList) else none

section
variable (resolver : Resolver) (s : Surroundings) (ambient : List RawVariable)
  (agent command prompt : String) (overrides : Dict String)

/-- The resolver is asked first, once, and only for texts that are all there. -/
theorem resolution_of_execute :
    (agent ≠ "" ∧ command ≠ "" ∧ prompt ≠ "" ∧
        ∃ rest, (execute resolver s ambient agent command prompt overrides).2 =
          .resolve agent command .oneShot :: rest ∧ resolutionsOf rest = []) ∨
      (¬(agent ≠ "" ∧ command ≠ "" ∧ prompt ≠ "") ∧
        (execute resolver s ambient agent command prompt overrides).2 = []) := by
  have h := execution resolver s ambient agent command prompt overrides
  generalize execute resolver s ambient agent command prompt overrides = t at h ⊢
  have hgiven : checkAgentTexts agent command prompt = .ok () → agent ≠ "" ∧ command ≠ "" ∧
      prompt ≠ "" := checkAgentTexts_eq_ok_iff.1
  cases h with
  | invalid e htexts => exact .inr ⟨not_given_of_error htexts, rfl⟩
  | refused e htexts =>
    obtain ⟨hagent, hcommand, hprompt⟩ := hgiven htexts
    exact .inl ⟨hagent, hcommand, hprompt, [], rfl, rfl⟩
  | wordless htexts =>
    obtain ⟨hagent, hcommand, hprompt⟩ := hgiven htexts
    exact .inl ⟨hagent, hcommand, hprompt, [], rfl, rfl⟩
  | launched l program words htexts =>
    obtain ⟨hagent, hcommand, hprompt⟩ := hgiven htexts
    exact .inl ⟨hagent, hcommand, hprompt, _, rfl, Launch.resolutionsOf_run l s⟩

theorem spawnsOnce_execute :
    SpawnsOnce s (agentWords? resolver agent command prompt) prompt
      (processEnvironment ambient overrides)
      (execute resolver s ambient agent command prompt overrides).2 := by
  have h := execution resolver s ambient agent command prompt overrides
  generalize execute resolver s ambient agent command prompt overrides = t at h ⊢
  cases h with
  | invalid e htexts =>
    have hwords : agentWords? resolver agent command prompt = none :=
      if_neg (not_given_of_error htexts)
    exact .of_no_words (by simp [hwords]) (by simp)
  | refused e htexts hresolve =>
    rw [agentWords?_of_ok htexts, hresolve]
    exact .of_no_words (by simp [Except.toOption]) (by simp [Effect.resolution?])
  | wordless htexts hresolve =>
    rw [agentWords?_of_ok htexts, hresolve]
    exact .of_no_words (by simp [Except.toOption]) (by simp [Effect.resolution?])
  | launched l program words htexts hresolve hl =>
    rw [agentWords?_of_ok htexts, hresolve, hl]
    exact (SpawnsOnce.of_launch agent program words).cons rfl

theorem resolutionsOf_executeCommand :
    resolutionsOf (executeCommand s ambient command prompt overrides).2 = [] := by
  have h := commandExecution s ambient command prompt overrides
  generalize executeCommand s ambient command prompt overrides = t at h ⊢
  cases h with
  | invalid | wordless => rfl
  | launched l => exact Launch.resolutionsOf_run l s

theorem spawnsOnce_executeCommand :
    SpawnsOnce s (commandWords? command prompt) prompt (processEnvironment ambient overrides)
      (executeCommand s ambient command prompt overrides).2 := by
  have h := commandExecution s ambient command prompt overrides
  generalize executeCommand s ambient command prompt overrides = t at h ⊢
  cases h with
  | invalid e htexts =>
    have hwords : commandWords? command prompt = none := by
      refine if_neg fun hgiven => ?_
      rw [checkCommandTexts_eq_ok_iff.2 hgiven] at htexts
      cases htexts
    exact .of_no_words (by simp [hwords]) (by simp)
  | wordless htexts hsplit =>
    have hwords : commandWords? command prompt = some [] := by
      rw [commandWords?, if_pos (checkCommandTexts_eq_ok_iff.1 htexts), hsplit]
      rfl
    exact .of_no_words (by simp [hwords]) (by simp)
  | launched l program words htexts hsplit hl =>
    have hwords : commandWords? command prompt =
        some (String.ofList program :: words.map String.ofList) := by
      rw [commandWords?, if_pos (checkCommandTexts_eq_ok_iff.1 htexts), hsplit]
      rfl
    rw [hwords, hl]
    exact .of_launch command (String.ofList program) (words.map String.ofList)

/-- **An invocation asks its resolver once and then the operating system once.**  An agent's
resolver is asked exactly where no text is empty.  A process is asked for exactly where besides
there are words to start it with, the context does not stop it and there is a file for its output;
its arguments are these words and, after them, the prompt as it is.  A command's words take the
place of the resolver's answer. -/
theorem effects_of_invocation :
    ((agent ≠ "" ∧ command ≠ "" ∧ prompt ≠ "" ∧
          ∃ rest, (execute resolver s ambient agent command prompt overrides).2 =
            .resolve agent command .oneShot :: rest ∧ resolutionsOf rest = []) ∨
        (¬(agent ≠ "" ∧ command ≠ "" ∧ prompt ≠ "") ∧
          (execute resolver s ambient agent command prompt overrides).2 = [])) ∧
      SpawnsOnce s (agentWords? resolver agent command prompt) prompt
        (processEnvironment ambient overrides)
        (execute resolver s ambient agent command prompt overrides).2 ∧
      resolutionsOf (executeCommand s ambient command prompt overrides).2 = [] ∧
      SpawnsOnce s (commandWords? command prompt) prompt (processEnvironment ambient overrides)
        (executeCommand s ambient command prompt overrides).2 :=
  ⟨resolution_of_execute resolver s ambient agent command prompt overrides,
    spawnsOnce_execute resolver s ambient agent command prompt overrides,
    resolutionsOf_executeCommand s ambient command prompt overrides,
    spawnsOnce_executeCommand s ambient command prompt overrides⟩

end

/-- a prompt that looks like flags and shell code stays one argument -/
theorem effects_of_invocation_flags :
    let request : SpawnRequest :=
      { program := "tool", arguments := ["-p", "--yolo; rm -rf \"$HOME\""] }
    request ∈ requestsOf (execute (fun _ _ _ => .ok ["tool", "-p"])
        { spawn := fun _ => .error .notFound } [] "agent" "x" "--yolo; rm -rf \"$HOME\"" .empty).2 ∧
      request ∈ requestsOf (executeCommand { spawn := fun _ => .error .notFound } [] " tool\t-p "
        "--yolo; rm -rf \"$HOME\"" .empty).2 :=
  have h := effects_of_invocation (fun _ _ _ => .ok ["tool", "-p"])
    { spawn := fun _ => .error .notFound } [] "agent"
  ⟨((h "x" "--yolo; rm -rf \"$HOME\"" .empty).2.1.mem_iff _).2
      ⟨⟨["tool", "-p"], rfl, by decide, rfl⟩, rfl, rfl, rfl⟩,
    ((h " tool\t-p " "--yolo; rm -rf \"$HOME\"" .empty).2.2.2.mem_iff _).2
      ⟨⟨["tool", "-p"], by decide, by decide, rfl⟩, rfl, rfl, rfl⟩⟩

end PromptDispatch

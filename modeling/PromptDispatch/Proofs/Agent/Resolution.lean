import PromptDispatch.Proofs.Invocation.Courses
import PromptDispatch.Proofs.Words.Quoting

/-!
# Command lines of agents

A resolution looks for the agent, then for the words of its command and at last for the program.
`Resolution` lists what can come of it, and later proofs do not open `resolve` again.

* `resolution`              one of these things does;
* `resolve_ne_nil`          where there are words, there are some;
* `resolve_join`            the words of a command that was written with quotes;
* `ne_noCommand_of_execute` an agent's invocation gets words or a reason why there are none;
* `resolution_of_command`   commands that were written with quotes, and all others.
-/

namespace PromptDispatch

section
variable (pathExists : String → Bool) (agent command : String) (mode : InvocationMode)

/-- what a resolution meets, with its answer -/
inductive Resolution : Except ResolutionFault (List String) → Prop
  | unknownAgent (hkind : AgentKind.ofName? agent = none) :
    Resolution (.error (.unknownAgent agent))
  | openQuote (kind : AgentKind) (hkind : AgentKind.ofName? agent = some kind)
    (hwords : Words.split command.toList = none) : Resolution (.error (.openQuote command agent))
  | noWords (kind : AgentKind) (hkind : AgentKind.ofName? agent = some kind)
    (hwords : Words.split command.toList = some []) : Resolution (.error (.noWords command agent))
  | missingProgram (kind : AgentKind) (w : List Char) (ws : List (List Char))
    (hkind : AgentKind.ofName? agent = some kind)
    (hwords : Words.split command.toList = some (w :: ws))
    (hmissing : (looksLikePath (String.ofList w) && !pathExists (String.ofList w)) = true) :
    Resolution (.error (.missingProgram agent (String.ofList w)))
  | resolved (kind : AgentKind) (w : List Char) (ws : List (List Char))
    (hkind : AgentKind.ofName? agent = some kind)
    (hwords : Words.split command.toList = some (w :: ws))
    (hprogram : (looksLikePath (String.ofList w) && !pathExists (String.ofList w)) = false) :
    Resolution (.ok ((w :: ws).map String.ofList ++ kind.flags mode))

theorem resolution : Resolution pathExists agent command mode
    (resolve pathExists agent command mode) := by
  unfold resolve
  cases hkind : AgentKind.ofName? agent with
  | none => exact .unknownAgent hkind
  | some kind =>
    cases hwords : Words.split command.toList with
    | none => exact .openQuote kind hkind hwords
    | some ws =>
      cases ws with
      | nil => exact .noWords kind hkind hwords
      | cons w ws =>
        dsimp only
        cases hprogram : looksLikePath (String.ofList w) && !pathExists (String.ofList w) with
        | true => exact .missingProgram kind w ws hkind hwords hprogram
        | false => exact .resolved kind w ws hkind hwords hprogram

end

section
variable {pathExists : String → Bool} {agent command : String} {mode : InvocationMode}

theorem resolve_ne_nil {argv : List String}
    (h : resolve pathExists agent command mode = .ok argv) : argv ≠ [] := by
  have hcourse := resolution pathExists agent command mode
  rw [h] at hcourse
  cases hcourse with
  | resolved => exact List.cons_ne_nil _ _

variable {fault : ResolutionFault}

theorem ne_noCommand_of_resolve (h : resolve pathExists agent command mode = .error fault)
    (n : String) : fault ≠ .noCommand n := by
  have hcourse := resolution pathExists agent command mode
  rw [h] at hcourse
  rintro rfl
  cases hcourse

theorem ne_unknownAgent_of_resolve {kind : AgentKind}
    (h : resolve pathExists kind.name command mode = .error fault) (n : String) :
    fault ≠ .unknownAgent n := by
  have hcourse := resolution pathExists kind.name command mode
  rw [h] at hcourse
  rintro rfl
  cases hcourse with
  | unknownAgent hkind => cases kind.ofName?_name.symm.trans hkind

end

/-! ## commands with quotes -/

/-- The words of a command that was written with quotes are found again, so that nothing but its
program can be missing. -/
theorem resolve_join (pathExists : String → Bool) (kind : AgentKind) (mode : InvocationMode)
    (program : String) (words : List String) :
    resolve pathExists kind.name
        (String.ofList (Words.join ((program :: words).map String.toList))) mode =
      if looksLikePath program && !pathExists program then
        .error (.missingProgram kind.name program)
      else .ok (program :: words ++ kind.flags mode) := by
  have hofList : (words.map String.toList).map String.ofList = words := by simp
  unfold resolve
  rw [kind.ofName?_name, String.toList_ofList, Words.split_join, List.map_cons]
  dsimp only
  rw [String.ofList_toList, hofList]

/-! ## invocations -/

section
variable {pathExists : String → Bool} {s : Surroundings} {ambient : List RawVariable}
  {agent command prompt : String} {overrides : Dict String}

theorem builtinResolver_ne_nil {mode : InvocationMode} {argv : List String}
    (h : builtinResolver pathExists agent command mode = .ok argv) : argv ≠ [] :=
  resolve_ne_nil (Except.mapError_eq_ok_iff.1 h)

/-- The built-in resolver never leaves an invocation without words and without a reason. -/
theorem ne_noCommand_of_execute {f : Failure}
    (h : (execute (builtinResolver pathExists) s ambient agent command prompt overrides).1 =
      .error f) (n : String) : f ≠ .resolution (.noCommand n) := by
  have hcourse := execution (builtinResolver pathExists) s ambient agent command prompt overrides
  generalize execute (builtinResolver pathExists) s ambient agent command prompt overrides = t
    at h hcourse
  rintro rfl
  cases hcourse with
  | invalid e htexts =>
    cases h
    obtain ⟨field, hfield⟩ := validation_of_checkAgentTexts htexts
    cases hfield
  | refused e htexts hwords =>
    cases h
    obtain ⟨fault, hresolve, hfault⟩ := Except.mapError_eq_error_iff.1 hwords
    cases hfault
    exact ne_noCommand_of_resolve hresolve n rfl
  | wordless htexts hwords => exact builtinResolver_ne_nil hwords rfl
  | launched l program words htexts hwords hl =>
    rcases (Launch.fails_of_run (Except.map_eq_error_iff.1 h)).exitCode with hcode | hcode <;>
      cases hcode

end

/-- **A command that was written with quotes is resolved to the words that it was written from**, with
the flags of the kind after them; it is refused only where its program is a path at which there is
nothing.  Whatever the agent and the command are, a command line that is resolved has words, so that
no invocation of a built-in agent fails for want of them. -/
theorem resolution_of_command (pathExists : String → Bool) :
    (∀ (kind : AgentKind) mode (ws : List String) program, ws.head? = some program →
      let command := String.ofList (Words.join (ws.map String.toList))
      ('/' ∉ program.toList ∨ pathExists program = true →
        builtinResolver pathExists kind.name command mode = .ok (ws ++ kind.flags mode)) ∧
      ('/' ∈ program.toList → pathExists program = false →
        builtinResolver pathExists kind.name command mode =
          .error (.resolution (.missingProgram kind.name program)))) ∧
    (∀ agent command mode argv,
      builtinResolver pathExists agent command mode = .ok argv → argv ≠ []) ∧
    (∀ s ambient agent command prompt overrides,
      (execute (builtinResolver pathExists) s ambient agent command prompt overrides).1 ≠
        .error (.resolution (.noCommand agent))) := by
  refine ⟨?_, fun _ _ _ _ h => builtinResolver_ne_nil h, ?_⟩
  · intro kind mode ws program hws command
    obtain ⟨words, rfl⟩ := List.head?_eq_some_iff.1 hws
    unfold builtinResolver
    rw [resolve_join]
    constructor
    · intro hprogram
      have hfound : (looksLikePath program && !pathExists program) = false := by
        rcases hprogram with hprogram | hprogram <;> simp [looksLikePath, hprogram]
      rw [hfound]
      rfl
    · intro hpath hexists
      have hmissing : (looksLikePath program && !pathExists program) = true := by
        simp [looksLikePath, hpath, hexists]
      rw [hmissing]
      rfl
  · intro s ambient agent command prompt overrides h
    exact ne_noCommand_of_execute h agent rfl

/-- a program with a blank in its name, a word that looks like a comment and an empty one; a path at
which there is nothing -/
theorem resolution_of_command_quoted :
    let pathExists := fun path => path = "/opt/my agent"
    builtinResolver pathExists "codex" "'/opt/my agent' '#1' ''" .oneShot =
        .ok ["/opt/my agent", "#1", "", "exec"] ∧
      builtinResolver pathExists "gemini" "'/no/agent;'" .interactive =
        .error (.resolution (.missingProgram "gemini" "/no/agent;")) ∧
      ["/opt/my agent", "#1", "", "exec"] ≠ [] := by
  intro pathExists
  obtain ⟨hquoted, hwords, -⟩ := resolution_of_command pathExists
  have hresolved : builtinResolver pathExists "codex" "'/opt/my agent' '#1' ''" .oneShot =
      .ok ["/opt/my agent", "#1", "", "exec"] :=
    (hquoted .codex .oneShot ["/opt/my agent", "#1", ""] "/opt/my agent" rfl).1 (.inr (by decide))
  exact ⟨hresolved,
    (hquoted .gemini .interactive ["/no/agent;"] "/no/agent;" rfl).2 (by decide) (by decide),
    hwords _ _ _ _ hresolved⟩

end PromptDispatch

import PromptDispatch.Proofs.Program.Writing

/-!
# Runs that check their output

A run that asks for a schema finds its descriptor before it starts anything and applies it to the
output; a validation finds it by its label when it has read a document.  Both make the same of the
same text (`answer`), so that a run with a schema is a run without one and then a validation of what
that has written.

* `run_eq`                  a run is the production of an output and then its printing;
* `validateSchema_eq`       a validation is the printing of a document;
* `answers_outcome`         what is seen of a printing;
* `answers_checked`, `answers_validated`   both answer to a text;
* `run_schema_eq_validate`  runs with a schema and validations.
-/

namespace PromptDispatch.Program

def Outside.document (o : Outside) : Option String → Except SystemFault String
  | none => o.input
  | some path => o.readFile path

/-! ## printing -/

def printed (v : Json) : String := v.pretty ++ "\n"

/-- the text that is printed of an output, or why it is refused -/
def answer (schema : Option Descriptor) (output : String) : Except Failure String :=
  match schema with
  | none => .ok output
  | some d => (d.validateOutput output.toList).map printed

/-- what is seen of a run that does nothing but answer -/
structure Outcome.Answers (seen : Outcome) (a : Except Failure String) : Prop where
  written : ∀ s, a = .ok s → seen.written = s ∧ seen.fault = none
  refused : ∀ f, a = .error f → seen.written = "" ∧ seen.fault = some (.failure f)

theorem Outcome.Answers.alike {seen seen' : Outcome} {a : Except Failure String}
    (h : seen.Answers a) (h' : seen'.Answers a) :
    seen.written = seen'.written ∧ seen.fault = seen'.fault := by
  cases ha : a with
  | ok s =>
    obtain ⟨hwritten, hfault⟩ := h.written s ha
    obtain ⟨hwritten', hfault'⟩ := h'.written s ha
    exact ⟨hwritten.trans hwritten'.symm, hfault.trans hfault'.symm⟩
  | error f =>
    obtain ⟨hwritten, hfault⟩ := h.refused f ha
    obtain ⟨hwritten', hfault'⟩ := h'.refused f ha
    exact ⟨hwritten.trans hwritten'.symm, hfault.trans hfault'.symm⟩

theorem Outcome.Answers.violation {seen : Outcome} {d : Descriptor} {output : String} {f : Fault}
    (h : seen.Answers (answer (some d) output)) (hf : seen.fault = some f) :
    ∃ problems, f = .failure (.violation d.label problems) := by
  cases ha : answer (some d) output with
  | ok s =>
    rw [(h.written s ha).2] at hf
    cases hf
  | error f' =>
    obtain ⟨problems, rfl⟩ := Descriptor.violation_of_validateOutput (Except.map_eq_error_iff.1 ha)
    rw [(h.refused _ ha).2] at hf
    exact ⟨problems, (Option.some.inj hf).symm⟩

/-! ## the output of a run -/

variable {o : Outside} {c : Config} {r : Registry}

def produce (o : Outside) (c : Config) (q : RunRequest) : Job String := do
  let selection ← Job.ofResult (c.select q.agent)
  let timeout ← Job.ofResult (chooseTimeout q.timeout selection.timeout)
  let environment := selection.environment.overlay (Dict.ofList q.settings)
  let command := q.command.getD selection.command
  let prompt ← Job.readPrompt o q.prompt
  Job.installHandlers o
  Job.perform
    (execute (builtinResolver o.pathExists) (o.surroundings timeout) o.vars
      selection.kind.name command prompt environment)

/-- nothing of an output depends on the schema that it has to match -/
theorem produce_schema (q : RunRequest) (schema : Option String) :
    produce o c { q with schema } = produce o c q := rfl

theorem silent_produce (q : RunRequest) : Job.Silent (produce o c q) := by
  refine .bind (.ofResult _) fun selection => ?_
  refine .bind (.ofResult _) fun timeout => ?_
  refine .bind (.readPrompt _) fun prompt => ?_
  exact .bind .installHandlers fun _ => .perform _

/-- Where the schema is there, a run is the production of an output and then its printing. -/
theorem run_eq {q : RunRequest} {schema : Option Descriptor}
    (h : q.schema.mapM (requireSchema r) = .ok schema) :
    run o c r q = produce o c q >>= printResult schema := by
  simp only [run, produce, h, Job.ofResult, pure_bind, bind_assoc]

/-- Where the document is there, its validation is the printing of its text. -/
theorem validateSchema_eq {label text : String} {file : Option String} {d : Descriptor}
    (hlabel : r.lookup label = some d) (hdocument : o.document file = .ok text) :
    validateSchema o r label file = printResult (some d) text := by
  have hread : Job.readDocument o file = pure text := by
    cases file with
    | none =>
      have hinput : o.input = .ok text := hdocument
      rw [Job.readDocument, Job.readInput, hinput]
    | some path =>
      have hfile : o.readFile path = .ok text := hdocument
      rw [Job.readDocument, hfile]
  rw [validateSchema, hread, pure_bind, Registry.validate, hlabel]
  rfl

/-! ## outcomes -/

section
variable {q : Request} {x : Job String} {schema : Option Descriptor} {output : String}
  {p : Progress}

theorem run_printResult_of_ok {s : String} (h : answer schema output = .ok s) :
    (printResult schema output).run p = (.ok (), { p with written := p.written ++ s }) := by
  cases schema with
  | none =>
    cases h
    rfl
  | some d =>
    obtain ⟨v, hv, rfl⟩ := Except.map_eq_ok_iff.1 h
    rw [printResult, hv]
    rfl

theorem run_printResult_of_error {f : Failure} (h : answer schema output = .error f) :
    (printResult schema output).run p = (.error (.failure f), p) := by
  cases schema with
  | none => cases h
  | some d =>
    have hv : d.validateOutput output.toList = .error f := Except.map_eq_error_iff.1 h
    rw [printResult, hv]
    rfl

theorem effects_outcome (h : dispatch o q = x >>= printResult schema) :
    (outcome o q).effects = (x.run {}).2.effects := by
  rcases hx : x.run {} with ⟨f | output, p⟩
  · have hrun := Job.run_bind_of_error (g := printResult schema) hx
    simp only [outcome, h, hrun]
  · have hrun := Job.run_bind_of_ok (g := printResult schema) hx
    cases ha : answer schema output with
    | ok s =>
      rw [run_printResult_of_ok ha] at hrun
      simp only [outcome, h, hrun]
    | error f =>
      rw [run_printResult_of_error ha] at hrun
      simp only [outcome, h, hrun]

theorem fault_outcome {f : Fault} (h : dispatch o q = x >>= printResult schema)
    (hx : x.run {} = (.error f, p)) : (outcome o q).fault = some f := by
  have hrun := Job.run_bind_of_error (g := printResult schema) hx
  simp only [outcome, h, hrun]

theorem answers_outcome (h : dispatch o q = x >>= printResult schema)
    (hx : x.run {} = (.ok output, p)) (hp : p.written = "") :
    (outcome o q).Answers (answer schema output) := by
  have hrun := Job.run_bind_of_ok (g := printResult schema) hx
  cases ha : answer schema output with
  | ok s =>
    rw [run_printResult_of_ok ha, hp, String.empty_append] at hrun
    simp only [outcome, h, hrun]
    constructor
    · intro s' hs
      cases hs
      exact ⟨rfl, rfl⟩
    · intro f hf
      cases hf
  | error f =>
    rw [run_printResult_of_error ha] at hrun
    simp only [outcome, h, hrun]
    constructor
    · intro s hs
      cases hs
    · intro f' hf
      cases hf
      exact ⟨hp, rfl⟩

end

/-! ## runs and validations -/

theorem dispatch_eq {q : Request} (hconfig : loadConfig o q.config = .ok c)
    (hregistry : c.registry = .ok r) : dispatch o q = perform o c r q.action := by
  have hinstalled : installRegistry c = .ok r := by
    rw [installRegistry, hregistry]
    rfl
  rw [dispatch, hconfig, Job.ofResult, pure_bind, hinstalled, Job.ofResult, pure_bind]

theorem exists_descriptor (h : c.Valid) {label : String} (hlabel : label ∈ c.schemas.keys) :
    ∃ r d, c.registry = .ok r ∧ r.lookup label = some d ∧ d.label = label := by
  obtain ⟨r, hr, -, hlookup⟩ := h.exists_registry
  obtain ⟨e, he⟩ := Option.isSome_iff_exists.1 (Dict.mem_keys_iff.1 hlabel)
  refine ⟨r, { label, fields := e.fields }, hr, ?_, rfl⟩
  rw [hlookup, he, Option.map_some]

section
variable {path : Option String} {q : RunRequest} {d : Descriptor} (verbose : Bool)

theorem dispatch_plain (hconfig : loadConfig o path = .ok c) (hr : c.registry = .ok r)
    (hschema : q.schema = none) :
    dispatch o { config := path, verbose, action := .run q } =
      produce o c q >>= printResult none := by
  rw [dispatch_eq hconfig hr]
  refine run_eq ?_
  rw [hschema]
  rfl

theorem dispatch_checked (hconfig : loadConfig o path = .ok c) (hr : c.registry = .ok r)
    {label : String} (hd : r.lookup label = some d) :
    dispatch o { config := path, verbose, action := .run { q with schema := some label } } =
      produce o c q >>= printResult (some d) := by
  rw [dispatch_eq hconfig hr, ← produce_schema q (some label)]
  refine run_eq ?_
  rw [Option.mapM_some, requireSchema, hd]
  rfl

/-- a run without a schema fails where there is no output, and writes the output that there is -/
theorem cases_plain (hconfig : loadConfig o path = .ok c) (hr : c.registry = .ok r)
    (hschema : q.schema = none) :
    let plain := outcome o { config := path, verbose, action := .run q }
    (∃ f p, (produce o c q).run {} = (.error f, p) ∧ plain.fault = some f) ∨
      ∃ p, (produce o c q).run {} = (.ok plain.written, p) ∧ p.written = "" ∧
        plain.fault = none := by
  have hplain := dispatch_plain verbose hconfig hr hschema
  have hsilent := silent_produce (o := o) (c := c) q {}
  rcases hrun : (produce o c q).run {} with ⟨f | output, p⟩
  · exact .inl ⟨f, p, rfl, fault_outcome hplain hrun⟩
  · rw [hrun] at hsilent
    obtain ⟨hwritten, hfault⟩ := (answers_outcome hplain hrun hsilent).written output rfl
    refine .inr ⟨p, ?_, hsilent, hfault⟩
    rw [hwritten]

/-- a run with a schema answers to what the run without it writes -/
theorem answers_checked (hconfig : loadConfig o path = .ok c) (hr : c.registry = .ok r)
    {label : String} (hd : r.lookup label = some d) (hschema : q.schema = none)
    (hfault : (outcome o { config := path, verbose, action := .run q }).fault = none) :
    (outcome o { config := path, verbose, action := .run { q with schema := some label } }).Answers
      (answer (some d) (outcome o { config := path, verbose, action := .run q }).written) := by
  rcases cases_plain verbose hconfig hr hschema with ⟨f, p, -, hf⟩ | ⟨p, hrun, hp, -⟩
  · rw [hf] at hfault
    cases hfault
  · exact answers_outcome (dispatch_checked verbose hconfig hr hd) hrun hp

theorem fault_checked (hconfig : loadConfig o path = .ok c) (hr : c.registry = .ok r)
    {label : String} (hd : r.lookup label = some d) (hschema : q.schema = none) {f : Fault}
    (hf : (outcome o { config := path, verbose, action := .run q }).fault = some f) :
    (outcome o { config := path, verbose, action := .run { q with schema := some label } }).fault =
      some f := by
  rcases cases_plain verbose hconfig hr hschema with ⟨f', p, hrun, hf'⟩ | ⟨p, -, -, hnone⟩
  · rw [fault_outcome (dispatch_checked verbose hconfig hr hd) hrun, ← hf']
    exact hf
  · rw [hnone] at hf
    cases hf

theorem answers_validated {q : Request} (hconfig : loadConfig o q.config = .ok c)
    (hr : c.registry = .ok r) {label text : String} {file : Option String}
    (hd : r.lookup label = some d) (haction : q.action = .validateSchema label file)
    (hdocument : o.document file = .ok text) : (outcome o q).Answers (answer (some d) text) := by
  have hvalidated : dispatch o q = pure text >>= printResult (some d) := by
    rw [dispatch_eq hconfig hr, haction, pure_bind]
    exact validateSchema_eq hd hdocument
  exact answers_outcome (p := {}) hvalidated rfl rfl

end

/-- **A run that asks for a schema is a run and then a validation.**  It starts what the run without
the schema starts.  Where that one fails, it fails in the same way and writes nothing.  Where that
one goes well, it writes what a validation by the schema writes of the document that was written,
and it fails exactly if the validation does, for the same problems and with the same exit code. -/
theorem run_schema_eq_validate {path : Option String} {label : String} {q : RunRequest}
    (verbose : Bool) (hconfig : loadConfig o path = .ok c) (hlabel : label ∈ c.schemas.keys)
    (hschema : q.schema = none) :
    let plain := outcome o { config := path, verbose, action := .run q }
    let checked :=
      outcome o { config := path, verbose, action := .run { q with schema := some label } }
    checked.effects = plain.effects ∧
      (∀ f, plain.fault = some f → checked.fault = some f ∧ checked.written = "") ∧
      (plain.fault = none → ∀ (o' : Outside) (q' : Request) (file : Option String),
        loadConfig o' q'.config = .ok c → q'.action = .validateSchema label file →
        o'.document file = .ok plain.written →
        let validated := outcome o' q'
        checked.written = validated.written ∧ checked.fault = validated.fault ∧
          checked.exitCode = validated.exitCode ∧
          ∀ f, validated.fault = some f →
            ∃ problems, f = .failure (.violation label problems)) := by
  obtain ⟨r, d, hr, hd, rfl⟩ := exists_descriptor (valid_of_loadConfig hconfig) hlabel
  have hplain := dispatch_plain verbose hconfig hr hschema
  have hchecked := dispatch_checked verbose (q := q) hconfig hr hd
  intro plain checked
  refine ⟨?_, fun f hf => ?_, fun hnone o' q' file hconfig' haction hdocument => ?_⟩
  · rw [effects_outcome hchecked, effects_outcome hplain]
  · have hfault := fault_checked verbose hconfig hr hd hschema hf
    exact ⟨hfault, allOrNothing_dispatch o _ {} f (outcome_fault_eq_some_iff.1 hfault)⟩
  · have hca : checked.Answers (answer (some d) plain.written) :=
      answers_checked verbose hconfig hr hd hschema hnone
    have hva := answers_validated hconfig' hr hd haction hdocument
    obtain ⟨hwritten, hfault⟩ := hca.alike hva
    refine ⟨hwritten, hfault, ?_, fun f => hva.violation⟩
    rw [Outcome.exitCode, Outcome.exitCode, hfault]

/-- an agent whose output has a notice, words around an object, and an undeclared member -/
theorem run_schema_eq_validate_notice :
    let said := "Sure:\n\x7b\"text\": \"hi\", \"mood\": 1\x7d\n"
    let child : ChildRun :=
      { polls := [⟨.exited (.ofExit 0), none⟩]
        captured := .ok ("Loaded cached credentials.\n" ++ said).toUTF8.data.toList
        ends := by decide }
    let o : Outside :=
      { pathExists := fun path => path = "agentshot.yaml"
        readFile := fun _ => .ok "schemas:\n  note:\n    fields:\n      - name: text\n"
        input := .ok said
        vars := []
        surroundings := fun _ => { spawn := fun _ => .ok child } }
    let q : RunRequest := { agent := "gemini", prompt := "hi" }
    let checked := outcome o { action := .run { q with schema := some "note" } }
    let validated := outcome o { action := .validateSchema "note" none }
    (outcome o { action := .run q }).written = said ∧ checked.written = validated.written ∧
      checked.fault = validated.fault ∧
      validated.fault = some (.failure (.violation "note" [.unexpected "mood"])) := by
  intro said child o q checked validated
  have hkeys : (loadConfig o none).map (·.schemas.keys) = .ok ["note"] := by decide +kernel
  obtain ⟨c, hc, hnote⟩ := Except.map_eq_ok_iff.1 hkeys
  have hlabel : "note" ∈ c.schemas.keys := by
    rw [hnote]
    decide
  have hwritten : (outcome o { action := .run q }).written = said := by decide +kernel
  have hfault : (outcome o { action := .run q }).fault = none := by decide +kernel
  obtain ⟨-, -, h⟩ := run_schema_eq_validate false hc hlabel (q := q) rfl
  obtain ⟨hsame, hfaults, -, -⟩ :=
    h hfault o { action := .validateSchema "note" none } none hc rfl
      (congrArg Except.ok hwritten.symm)
  exact ⟨hwritten, hsame, hfaults, by decide +kernel⟩

end PromptDispatch.Program

import PromptDispatch.Program
import PromptDispatch.Proofs.Config.Use

/-!
# What is written where a run fails

A command does all that can fail before it writes its first character, or else it cannot fail any
more.  The one that selects agents between its lines is of the second kind, because a configuration
that was loaded is valid.

* `Job.Silent`         a part that writes nothing;
* `Job.AllOrNothing`   a part that has written nothing where it fails;
* `allOrNothing_perform`   each command is one;
* `written_of_fault`   and so is the program.
-/

namespace PromptDispatch.Program

namespace Job

variable {α β : Type} {x : Job α} {g : α → Job β} {o : Outside}

def Silent (x : Job α) : Prop := ∀ p, (x.run p).2.written = p.written

/-- nothing has been written where the job fails -/
def AllOrNothing (x : Job α) : Prop :=
  ∀ p f, (x.run p).1 = .error f → (x.run p).2.written = p.written

/-! ## parts that write nothing -/

namespace Silent

theorem pure (a : α) : Silent (pure a : Job α) := fun _ => rfl

theorem throw (f : Fault) : Silent (throw f : Job α) := fun _ => rfl

theorem bind (hx : Silent x) (hg : ∀ a, Silent (g a)) : Silent (x >>= g) := by
  intro p
  have hwritten := hx p
  rw [run_bind]
  rcases hrun : x.run p with ⟨f | a, p'⟩
  · rw [hrun] at hwritten
    exact hwritten
  · rw [hrun] at hwritten
    exact (hg a p').trans hwritten

theorem ofResult (r : Except Failure α) : Silent (ofResult r) := by
  cases r with
  | ok a => exact .pure a
  | error f => exact .throw (.failure f)

theorem perform (t : Traced (Except Failure α)) : Silent (perform t) := by
  have heffects : Silent (modify fun p => { p with effects := p.effects ++ t.2 } : Job PUnit) :=
    fun _ => rfl
  exact .bind heffects fun _ => .ofResult t.1

theorem readInput : Silent (readInput o) := by
  rw [Job.readInput]
  cases o.input with
  | ok s => exact .pure s
  | error e => exact .throw (.inputUnreadable e)

theorem readDocument (file : Option String) : Silent (readDocument o file) := by
  cases file with
  | none => exact .readInput
  | some path =>
    rw [Job.readDocument]
    cases o.readFile path with
    | ok s => exact .pure s
    | error e => exact .throw (.fileUnreadable path e)

theorem readPrompt (word : String) : Silent (readPrompt o word) := by
  rw [Job.readPrompt]
  split
  · exact .readInput
  · exact .pure word

theorem installHandlers : Silent (installHandlers o) := by
  have hhandler (signal : StopSignal) : Silent (installHandler o signal) := by
    rw [installHandler]
    cases o.handler signal with
    | ok u => exact .pure u
    | error reason => exact .throw (.handlerRefused signal reason)
  exact .bind (hhandler .interrupt) fun _ => hhandler .terminate

end Silent

/-! ## parts that write only where they succeed -/

namespace AllOrNothing

theorem of_silent (h : Silent x) : AllOrNothing x := fun p _ _ => h p

theorem of_ok (h : ∀ p, ∃ a, (x.run p).1 = .ok a) : AllOrNothing x := by
  intro p f hf
  obtain ⟨a, ha⟩ := h p
  rw [ha] at hf
  cases hf

theorem write (s : String) : AllOrNothing (write s) := of_ok fun _ => ⟨(), rfl⟩

theorem writeLine (s : String) : AllOrNothing (writeLine s) := .write (s ++ "\n")

theorem bind (hx : Silent x) (hg : ∀ a, AllOrNothing (g a)) : AllOrNothing (x >>= g) := by
  intro p f
  have hwritten := hx p
  rw [run_bind]
  rcases hrun : x.run p with ⟨e | a, p'⟩
  · rw [hrun] at hwritten
    exact fun _ => hwritten
  · rw [hrun] at hwritten
    exact fun hf => (hg a p' f hf).trans hwritten

theorem ofResult_bind {r : Except Failure α} (hg : ∀ a, r = .ok a → AllOrNothing (g a)) :
    AllOrNothing (ofResult r >>= g) := by
  cases r with
  | ok a => exact hg a rfl
  | error f => exact .of_silent (.throw (.failure f))

end AllOrNothing

end Job

/-! ## commands -/

open Job (AllOrNothing Silent)

variable {o : Outside} {c : Config}

theorem allOrNothing_printResult (schema : Option Descriptor) (output : String) :
    AllOrNothing (printResult schema output) := by
  cases schema with
  | none => exact .write output
  | some d => exact .bind (.ofResult _) fun v => .writeLine _

theorem allOrNothing_run (r : Registry) (q : RunRequest) : AllOrNothing (run o c r q) := by
  refine .bind (.ofResult _) fun selection => ?_
  refine .bind (.ofResult _) fun schema => ?_
  refine .bind (.ofResult _) fun timeout => ?_
  refine .bind (.readPrompt _) fun prompt => ?_
  refine .bind .installHandlers fun _ => ?_
  exact .bind (.perform _) fun output => allOrNothing_printResult schema output

theorem allOrNothing_exec (q : ExecRequest) : AllOrNothing (exec o c q) := by
  refine .bind (.ofResult _) fun timeout => ?_
  refine .bind (.readPrompt _) fun prompt => ?_
  refine .bind .installHandlers fun _ => ?_
  exact .bind (.perform _) fun output => .write output

/-- Agents are selected between lines that are written, but none of a valid configuration fails. -/
theorem allOrNothing_agents (h : c.Valid) : AllOrNothing (agents c) :=
  .of_ok fun p => ⟨(), h.agents_ok p⟩

theorem allOrNothing_listSchemas (r : Registry) : AllOrNothing (listSchemas r) := by
  have hgoes : Job.Goes (fun result _ => result = .ok ()) (listSchemas r) := by
    rw [listSchemas]
    split
    · exact .writeLine _ rfl
    · exact .line (.forM (fun d => .writeLine _) _ rfl)
  exact .of_ok fun p => ⟨(), hgoes.result p⟩

theorem allOrNothing_showSchema (r : Registry) (label : String) :
    AllOrNothing (showSchema r label) := by
  rw [showSchema]
  split
  · exact .of_silent (.throw _)
  · exact .writeLine _

theorem allOrNothing_validateSchema (r : Registry) (label : String) (file : Option String) :
    AllOrNothing (validateSchema o r label file) :=
  .bind (.readDocument file) fun _ => .bind (.ofResult _) fun _ => .writeLine _

theorem allOrNothing_decodeStream (file : Option String) : AllOrNothing (decodeStream o file) :=
  .bind (.readDocument file) fun _ => .bind (.ofResult _) fun _ => .writeLine _

/-- No command of a valid configuration has written anything where it fails. -/
theorem allOrNothing_perform (h : c.Valid) (r : Registry) (a : Action) :
    AllOrNothing (perform o c r a) := by
  cases a with
  | run q => exact allOrNothing_run r q
  | exec q => exact allOrNothing_exec q
  | agents => exact allOrNothing_agents h
  | listSchemas => exact allOrNothing_listSchemas r
  | showSchema label => exact allOrNothing_showSchema r label
  | validateSchema label file => exact allOrNothing_validateSchema r label file
  | decodeStream file => exact allOrNothing_decodeStream file

/-! ## the program -/

theorem valid_of_loadConfig {path : Option String} (h : loadConfig o path = .ok c) : c.Valid := by
  cases path with
  | none =>
    obtain ⟨loaded, hloaded, rfl⟩ := Except.map_eq_ok_iff.1 h
    cases loaded with
    | none => exact Config.valid_default
    | some c => exact Config.valid_of_loadConfig? hloaded
  | some path =>
    obtain ⟨loaded, hloaded, hc⟩ := Except.bind_eq_ok_iff.1 h
    cases loaded with
    | none => cases hc
    | some c =>
      cases hc
      exact Config.valid_of_loadConfig? hloaded

theorem allOrNothing_dispatch (o : Outside) (q : Request) : AllOrNothing (dispatch o q) := by
  refine .ofResult_bind fun c hc => ?_
  exact .bind (.ofResult _) fun r => allOrNothing_perform (valid_of_loadConfig hc) r q.action

theorem outcome_fault_eq_some_iff {o : Outside} {q : Request} {f : Fault} :
    (outcome o q).fault = some f ↔ ((dispatch o q).run {}).1 = .error f := by
  rw [outcome]
  rcases (dispatch o q).run {} with ⟨e | u, p⟩
  · constructor
    · intro h
      rw [Option.some.inj h]
    · intro h
      rw [Except.error.inj h]
  · exact ⟨nofun, nofun⟩

/-- **A run that fails has written nothing**: no part of a listing, no output that was not valid and
no count of records, whatever was asked for and whatever the program met. -/
theorem written_of_fault {o : Outside} {q : Request} {f : Fault}
    (h : (outcome o q).fault = some f) : (outcome o q).written = "" :=
  allOrNothing_dispatch o q {} f (outcome_fault_eq_some_iff.1 h)

/-- an agent whose output is no object, and a stream of which the second line is no record -/
theorem written_of_fault_misshapen :
    let child : ChildRun :=
      { polls := [⟨.running, none⟩, ⟨.exited (.ofExit 0), none⟩]
        captured := .ok [0x6F, 0x6B]
        ends := by decide }
    let o : Outside :=
      { pathExists := fun path => path = "agentshot.yaml"
        readFile := fun _ => .ok "schemas:\n  note:\n    fields:\n      - name: text\n"
        input := .ok "\x7b\x7d\nno record\n"
        vars := []
        surroundings := fun _ => { spawn := fun _ => .ok child } }
    let checked : Request :=
      { action := .run { agent := "claude", prompt := "hi", schema := some "note" } }
    let decoded : Request := { action := .decodeStream none }
    ((outcome o checked).fault = some (.failure (.violation "note" [.noObject])) ∧
        (outcome o checked).written = "") ∧
      (outcome o decoded).fault = some (.failure (.decode 2 "no record" .malformed)) ∧
        (outcome o decoded).written = "" := by
  intro child o checked decoded
  have hchecked : (outcome o checked).fault = some (.failure (.violation "note" [.noObject])) := by
    decide +kernel
  have hdecoded : (outcome o decoded).fault =
      some (.failure (.decode 2 "no record" .malformed)) := by
    decide +kernel
  exact ⟨⟨hchecked, written_of_fault hchecked⟩, hdecoded, written_of_fault hdecoded⟩

end PromptDispatch.Program

import PromptDispatch.Program.Outside

/-!
# How a part of the program goes

`Job.Goes P` says of a part of the program that, whatever has been done before it, `P` holds of its
result and of what it does.  There is one rule for each way to make a job, and what a command comes
to is read off its text with them; no later proof runs a job.
-/

namespace PromptDispatch.Program.Job

variable {α β : Type}

theorem run_bind (x : Job α) (g : α → Job β) (p : Progress) :
    (x >>= g).run p =
      match x.run p with
      | (.ok a, p') => (g a).run p'
      | (.error e, p') => (.error e, p') := by
  simp only [bind, ExceptT.bind, ExceptT.mk, ExceptT.run, StateT.bind, ExceptT.bindCont]
  rcases x p with ⟨e | a, p'⟩ <;> rfl

theorem run_bind_of_ok {x : Job α} {g : α → Job β} {p p' : Progress} {a : α}
    (h : x.run p = (.ok a, p')) : (x >>= g).run p = (g a).run p' := by
  rw [run_bind, h]

theorem run_bind_of_error {x : Job α} {g : α → Job β} {p p' : Progress} {f : Fault}
    (h : x.run p = (.error f, p')) : (x >>= g).run p = (.error f, p') := by
  rw [run_bind, h]

/-- `P` holds of the result of the job and of what it does, whatever has been done before -/
def Goes (P : Except Fault α → List Effect → Prop) (j : Job α) : Prop :=
  ∀ p, ∃ es, (j.run p).2.effects = p.effects ++ es ∧ P (j.run p).1 es

namespace Goes

section
variable {P : Except Fault α → List Effect → Prop} {Q : Except Fault β → List Effect → Prop}
  {x : Job α} {g : α → Job β}

theorem of_start (h : Goes P x) : P (x.run {}).1 (x.run {}).2.effects := by
  obtain ⟨es, hes, hP⟩ := h {}
  rw [hes]
  exact hP

theorem result {R : Except Fault α → Prop} (h : Goes (fun r _ => R r) x) (p : Progress) :
    R (x.run p).1 := by
  obtain ⟨es, -, hR⟩ := h p
  exact hR

theorem mono {P' : Except Fault α → List Effect → Prop} (h : Goes P x)
    (hP : ∀ r es, P r es → P' r es) : Goes P' x := by
  intro p
  obtain ⟨es, hes, hx⟩ := h p
  exact ⟨es, hes, hP _ _ hx⟩

theorem pure {a : α} (h : P (.ok a) []) : Goes P (pure a) := fun _ =>
  ⟨[], (List.append_nil _).symm, h⟩

theorem throw {f : Fault} (h : P (.error f) []) : Goes P (throw f) := fun _ =>
  ⟨[], (List.append_nil _).symm, h⟩

/-- a part that goes well is followed by the rest, one that does not is all -/
theorem bind
    (h : Goes (fun r es =>
      match r with
      | .ok a => Goes (fun r' es' => Q r' (es ++ es')) (g a)
      | .error f => Q (.error f) es) x) :
    Goes Q (x >>= g) := by
  intro p
  obtain ⟨es, hes, hx⟩ := h p
  rw [run_bind]
  rcases hrun : x.run p with ⟨f | a, p'⟩
  · rw [hrun] at hes hx
    exact ⟨es, hes, hx⟩
  · rw [hrun] at hes hx
    obtain ⟨es', hes', hg⟩ := hx p'
    refine ⟨es ++ es', ?_, hg⟩
    rw [hes', hes, List.append_assoc]

theorem ofResult {r : Except Failure α} (herror : ∀ f, r = .error f → P (.error (.failure f)) [])
    (hok : ∀ a, r = .ok a → P (.ok a) []) : Goes P (ofResult r) := by
  cases r with
  | ok a => exact .pure (hok a rfl)
  | error f => exact .throw (herror f rfl)

theorem perform {t : Traced (Except Failure α)}
    (herror : ∀ f, t.1 = .error f → P (.error (.failure f)) t.2)
    (hok : ∀ a, t.1 = .ok a → P (.ok a) t.2) : Goes P (perform t) := by
  have hresult : Goes (fun r es => P r (t.2 ++ es)) (Job.ofResult t.1) :=
    .ofResult (fun f hf => by rw [List.append_nil]; exact herror f hf)
      fun a ha => by rw [List.append_nil]; exact hok a ha
  exact .bind fun p => ⟨t.2, rfl, hresult⟩

end

/-! ## writing -/

section
variable {P : Except Fault Unit → List Effect → Prop}

theorem write (s : String) (h : P (.ok ()) []) : Goes P (write s) := fun _ =>
  ⟨[], (List.append_nil _).symm, h⟩

theorem writeLine (s : String) (h : P (.ok ()) []) : Goes P (writeLine s) := .write _ h

theorem line {s : String} {g : Unit → Job Unit} (h : Goes P (g ())) :
    Goes P (Job.writeLine s >>= g) :=
  .bind (.writeLine s h)

theorem forM {h : α → Job PUnit}
    (hh : ∀ a {Q : Except Fault Unit → List Effect → Prop}, Q (.ok ()) [] → Goes Q (h a))
    (l : List α) (hP : P (.ok ()) []) : Goes P (l.forM h) := by
  induction l with
  | nil => exact .pure hP
  | cons a r ih => exact .bind (hh a ih)

end

/-! ## asking -/

section
variable {P : Except Fault String → List Effect → Prop} {o : Outside}

theorem readInput (herror : ∀ e, P (.error (.inputUnreadable e)) []) (hok : ∀ s, P (.ok s) []) :
    Goes P (readInput o) := by
  rw [Job.readInput]
  cases o.input with
  | ok s => exact .pure (hok s)
  | error e => exact .throw (herror e)

theorem readDocument (hinput : ∀ e, P (.error (.inputUnreadable e)) [])
    (hfile : ∀ path e, P (.error (.fileUnreadable path e)) []) (hok : ∀ s, P (.ok s) [])
    (file : Option String) : Goes P (readDocument o file) := by
  cases file with
  | none => exact .readInput hinput hok
  | some path =>
    rw [Job.readDocument]
    cases o.readFile path with
    | ok s => exact .pure (hok s)
    | error e => exact .throw (hfile path e)

theorem readPrompt (herror : ∀ e, P (.error (.inputUnreadable e)) []) (hok : ∀ s, P (.ok s) [])
    (word : String) : Goes P (readPrompt o word) := by
  rw [Job.readPrompt]
  split
  · exact .readInput herror hok
  · exact .pure (hok word)

end

section
variable {P : Except Fault Unit → List Effect → Prop} {o : Outside}

theorem installHandler (signal : StopSignal)
    (herror : ∀ reason, P (.error (.handlerRefused signal reason)) []) (hok : P (.ok ()) []) :
    Goes P (installHandler o signal) := by
  rw [Job.installHandler]
  cases o.handler signal with
  | ok u => exact .pure hok
  | error reason => exact .throw (herror reason)

theorem installHandlers (herror : ∀ signal reason, P (.error (.handlerRefused signal reason)) [])
    (hok : P (.ok ()) []) : Goes P (installHandlers o) :=
  .bind (.installHandler .interrupt (herror .interrupt)
    (.installHandler .terminate (herror .terminate) hok))

end

end Goes

end PromptDispatch.Program.Job

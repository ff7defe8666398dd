import PromptDispatch.Program
import PromptDispatch.Proofs.Program.Failures

/-!
# The courses of a run

A request that launches nothing is carried out without effects.  Any other is refused before
anything is started, or it comes to one launch (`Launches`) and ends as that does.  `Course` lists
what can come of a run, and `course_outcome` says that there is nothing else.
-/

namespace PromptDispatch

def Action.launches : Action → Bool
  | .run _ | .exec _ => true
  | _ => false

namespace Program

/-- the launch that a request comes to, and what it meets -/
inductive Launches (o : Outside) (q : Request) (l : Launch) (s : Surroundings) : Prop
  | run (rq : RunRequest) (c : Config) (selection : Selection) (timeout : Timeout)
    (program : String) (words : List String) (prompt : String) (hq : q.action = .run rq)
    (hconfig : loadConfig o q.config = .ok c) (hselect : c.select rq.agent = .ok selection)
    (htimeout : chooseTimeout rq.timeout selection.timeout = .ok timeout)
    (hs : s = o.surroundings timeout)
    (hl : l = promptLaunch selection.kind.name program words prompt
      (processEnvironment o.vars (selection.environment.overlay (Dict.ofList rq.settings))))
  | exec (rq : ExecRequest) (c : Config) (timeout : Timeout) (program : String)
    (words : List String) (prompt : String) (hq : q.action = .exec rq)
    (hconfig : loadConfig o q.config = .ok c)
    (htimeout : chooseTimeout (some (rq.timeout.getD c.defaults.timeoutSeconds)) default =
      .ok timeout)
    (hs : s = o.surroundings timeout)
    (hl : l = promptLaunch rq.command program words prompt
      (processEnvironment o.vars (Dict.ofList rq.settings)))

variable {o : Outside} {q : Request}

theorem Launches.launches {l : Launch} {s : Surroundings} (h : Launches o q l s) :
    q.action.launches = true := by
  cases h with
  | run rq _ _ _ _ _ _ hq => rw [hq, Action.launches]
  | exec rq _ _ _ _ _ hq => rw [hq, Action.launches]

inductive Printed (q : Request) : Except Fault Unit → Prop
  | whole : Printed q (.ok ())
  | refused (rq : RunRequest) (label : String) (problems : List Problem)
    (hq : q.action = .run rq) : Printed q (.error (.failure (.violation label problems)))

/-- what can come of a run, with what it does -/
inductive Course (o : Outside) (q : Request) : Except Fault Unit → List Effect → Prop
  | idle (r : Except Fault Unit) (hq : q.action.launches = false)
    (hcode : ∀ f, r = .error f → f.exitCode ≤ 2) : Course o q r []
  | refused (f : Fault) (asked : List Effect) (hcode : f.exitCode = 1)
    (hasked : ∀ e ∈ asked, e.resolution?.isSome = true) : Course o q (.error f) asked
  | failed (l : Launch) (s : Surroundings) (asked : List Effect) (f : Failure)
    (hl : Launches o q l s) (hasked : ∀ e ∈ asked, e.resolution?.isSome = true)
    (hresult : (l.run s).1 = .error f) : Course o q (.error (.failure f)) (asked ++ (l.run s).2)
  | answered (l : Launch) (s : Surroundings) (asked : List Effect) (output : String)
    (r : Except Fault Unit) (hl : Launches o q l s)
    (hasked : ∀ e ∈ asked, e.resolution?.isSome = true) (hresult : (l.run s).1 = .ok output)
    (hprinted : Printed q r) : Course o q r (asked ++ (l.run s).2)

/-! ## before anything is started -/

theorem Course.mistake {f : Fault} (hcode : f.exitCode = 1) : Course o q (.error f) [] :=
  .refused f [] hcode nofun

theorem failure_of_loadConfig? {path : String} {f : Failure} (h : loadConfig? o path = .error f) :
    ∃ fault, f = .config fault := by
  rw [loadConfig?] at h
  split at h
  · cases h
  · split at h
    · cases h
      exact ⟨_, rfl⟩
    · rw [Except.map_eq_error_iff, Config.ofYaml] at h
      split at h
      · cases h
        exact ⟨_, rfl⟩
      · obtain ⟨fault, -, rfl⟩ := Except.mapError_eq_error_iff.1 (Except.map_eq_error_iff.1 h)
        exact ⟨fault, rfl⟩

theorem failure_of_loadConfig {path : Option String} {f : Failure}
    (h : loadConfig o path = .error f) : ∃ fault, f = .config fault := by
  cases path with
  | none => exact failure_of_loadConfig? (Except.map_eq_error_iff.1 h)
  | some path =>
    rcases Except.bind_eq_error_iff.1 h with h | ⟨c, -, h⟩
    · exact failure_of_loadConfig? h
    · cases c with
      | none =>
        cases h
        exact ⟨_, rfl⟩
      | some c => cases h

theorem failure_of_installRegistry {c : Config} {f : Failure} (h : installRegistry c = .error f) :
    ∃ fault, f = .schema fault := by
  obtain ⟨fault, -, rfl⟩ := Except.mapError_eq_error_iff.1 h
  exact ⟨fault, rfl⟩

theorem exitCode_of_select {c : Config} {name : String} {f : Failure}
    (h : c.select name = .error f) : f.exitCode = 1 := by
  rcases failure_of_select h with ⟨fault, rfl⟩ | rfl <;> rfl

/-! ## commands that launch -/

/-- an invocation and the printing of its output are all that is left of a run -/
theorem goes_perform {s : Surroundings} {t : Traced (Except Failure String)}
    (ht : Invoked s (fun l => Launches o q l s) t) {print : String → Job Unit}
    (hprint : ∀ output, Job.Goes (fun r es => es = [] ∧ Printed q r) (print output)) :
    Job.Goes (Course o q) (Job.perform t >>= print) := by
  cases ht with
  | refused f asked hcode hasked =>
    exact .bind (.perform (fun f' hf => by cases hf; exact .refused _ asked hcode hasked) nofun)
  | launched l clean asked hl hasked =>
    refine .bind (.perform (fun f hf => ?_) fun output houtput => ?_)
    · exact .failed l s asked f hl hasked (Except.map_eq_error_iff.1 hf)
    · obtain ⟨raw, hraw, -⟩ := Except.map_eq_ok_iff.1 houtput
      refine (hprint output).mono fun r es ⟨hes, hprinted⟩ => ?_
      rw [hes]
      simpa using Course.answered l s asked raw r hl hasked hraw hprinted

theorem course_run {c : Config} (hconfig : loadConfig o q.config = .ok c) (r : Registry)
    {rq : RunRequest} (hq : q.action = .run rq) : Job.Goes (Course o q) (run o c r rq) := by
  refine .bind (.ofResult (fun f hf => ?_) fun selection hselect => ?_)
  · exact .mistake (exitCode_of_select hf)
  refine .bind (.ofResult (fun f hf => ?_) fun schema _ => ?_)
  · obtain ⟨fault, rfl⟩ := failure_of_requireSchema hf
    exact .mistake rfl
  refine .bind (.ofResult (fun f hf => ?_) fun timeout htimeout => ?_)
  · rw [failure_of_chooseTimeout hf]
    exact .mistake rfl
  refine .bind (.readPrompt (fun e => .mistake rfl) (fun prompt => ?_) _)
  refine .bind (.installHandlers (fun signal reason => .mistake rfl) ?_)
  refine goes_perform (s := o.surroundings timeout) ((invoked_execute ..).mono ?_) fun output => ?_
  · rintro l ⟨program, words, hl⟩
    exact .run rq c selection timeout program words prompt hq hconfig hselect htimeout rfl hl
  · exact goes_printResult schema output (fun label ps => ⟨rfl, .refused rq label ps hq⟩)
      ⟨rfl, .whole⟩

theorem course_exec {c : Config} (hconfig : loadConfig o q.config = .ok c) {rq : ExecRequest}
    (hq : q.action = .exec rq) : Job.Goes (Course o q) (exec o c rq) := by
  refine .bind (.ofResult (fun f hf => ?_) fun timeout htimeout => ?_)
  · rw [failure_of_chooseTimeout hf]
    exact .mistake rfl
  refine .bind (.readPrompt (fun e => .mistake rfl) (fun prompt => ?_) _)
  refine .bind (.installHandlers (fun signal reason => .mistake rfl) ?_)
  refine goes_perform (s := o.surroundings timeout) ((invoked_executeCommand ..).mono ?_)
    fun output => .write output ⟨rfl, .whole⟩
  rintro l ⟨program, words, hl⟩
  exact .exec rq c timeout program words prompt hq hconfig htimeout rfl hl

/-! ## commands that launch nothing -/

section
variable (hq : q.action.launches = false)
include hq

theorem Course.idle_ok : Course o q (.ok ()) [] := .idle _ hq nofun

theorem Course.misshapen {f : Fault} (hcode : f.exitCode = 2) : Course o q (.error f) [] := by
  refine .idle _ hq fun f' hf => ?_
  cases hf
  exact Nat.le_of_eq hcode

theorem course_agents (c : Config) : Job.Goes (Course o q) (agents c) :=
  goes_agents (fun _ _ _ hf => .mistake (exitCode_of_select hf)) (.idle_ok hq)

theorem course_listSchemas (r : Registry) : Job.Goes (Course o q) (listSchemas r) := by
  rw [listSchemas]
  split
  · exact .writeLine _ (.idle_ok hq)
  · exact .line (.forM (fun d => .writeLine _) _ (.idle_ok hq))

theorem course_showSchema (r : Registry) (label : String) :
    Job.Goes (Course o q) (showSchema r label) := by
  rw [showSchema]
  split
  · exact .throw (.mistake rfl)
  · exact .writeLine _ (.idle_ok hq)

theorem course_validateSchema (r : Registry) (label : String) (file : Option String) :
    Job.Goes (Course o q) (validateSchema o r label file) := by
  refine .bind (.readDocument (fun e => .mistake rfl) (fun path e => .mistake rfl)
    (fun raw => ?_) _)
  refine .bind (.ofResult (fun f hf => ?_) fun v _ => .writeLine _ (.idle_ok hq))
  rw [Registry.validate] at hf
  split at hf
  · cases hf
    exact .mistake rfl
  · obtain ⟨ps, rfl⟩ := Descriptor.violation_of_validateOutput hf
    exact .misshapen hq rfl

theorem course_decodeStream (file : Option String) :
    Job.Goes (Course o q) (decodeStream o file) := by
  refine .bind (.readDocument (fun e => .mistake rfl) (fun path e => .mistake rfl)
    (fun raw => ?_) _)
  refine .bind (.ofResult (fun f hf => ?_) fun v _ => .writeLine _ (.idle_ok hq))
  obtain ⟨n, text, fault, rfl⟩ := failure_of_decodeLines hf
  exact .misshapen hq rfl

end

/-! ## all of a run -/

theorem course_perform {c : Config} (hconfig : loadConfig o q.config = .ok c) (r : Registry) :
    Job.Goes (Course o q) (perform o c r q.action) := by
  cases hq : q.action with
  | run rq => exact course_run hconfig r hq
  | exec rq => exact course_exec hconfig hq
  | agents => exact course_agents (by rw [hq]; rfl) c
  | listSchemas => exact course_listSchemas (by rw [hq]; rfl) r
  | showSchema label => exact course_showSchema (by rw [hq]; rfl) r label
  | validateSchema label file => exact course_validateSchema (by rw [hq]; rfl) r label file
  | decodeStream file => exact course_decodeStream (by rw [hq]; rfl) file

theorem course_dispatch (o : Outside) (q : Request) : Job.Goes (Course o q) (dispatch o q) := by
  refine .bind (.ofResult (fun f hf => ?_) fun c hconfig => ?_)
  · obtain ⟨fault, rfl⟩ := failure_of_loadConfig hf
    exact .mistake rfl
  refine .bind (.ofResult (fun f hf => ?_) fun r _ => course_perform hconfig r)
  obtain ⟨fault, rfl⟩ := failure_of_installRegistry hf
  exact .mistake rfl

def resultCode : Except Fault Unit → Nat
  | .ok () => 0
  | .error f => f.exitCode

/-- What is seen of a run is one of its courses. -/
theorem course_outcome (o : Outside) (q : Request) :
    ∃ r, (outcome o q).exitCode = resultCode r ∧ Course o q r (outcome o q).effects := by
  have hcourse := (course_dispatch o q).of_start
  refine ⟨((dispatch o q).run {}).1, ?_, hcourse⟩
  rw [Outcome.exitCode, outcome]
  rcases (dispatch o q).run {} with ⟨f | u, progress⟩ <;> rfl

theorem launches_of_request {r : SpawnRequest} (h : r ∈ requestsOf (outcome o q).effects) :
    ∃ l s, Launches o q l s ∧ r = l.request := by
  obtain ⟨result, -, hcourse⟩ := course_outcome o q
  have hrun : ∀ (l : Launch) (s : Surroundings), r ∈ requestsOf (l.run s).2 → r = l.request := by
    intro l s hr
    rcases Launch.requestsOf_run l s with ⟨-, -, hone⟩ | ⟨-, hnone, -⟩
    · exact List.mem_singleton.1 (hone ▸ hr)
    · rw [hnone] at hr
      cases hr
  generalize (outcome o q).effects = done at h hcourse
  cases hcourse with
  | idle => cases h
  | refused f asked hcode hasked =>
    rw [requestsOf_of_asked hasked] at h
    cases h
  | failed l s asked f hl hasked | answered l s asked output r hl hasked =>
    rw [requestsOf_asked_append hasked] at h
    exact ⟨l, s, hl, hrun l s h⟩

end Program

end PromptDispatch

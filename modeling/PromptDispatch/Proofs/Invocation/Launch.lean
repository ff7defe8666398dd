import PromptDispatch.Invocation.Launch
import PromptDispatch.Proofs.Invocation.Wait

/-!
# What one launch does

A launch goes one of four ways (`Launch.Course`): the context stops it, there is no file for the
output, no child is started, or a child runs to its end.  Each fact about launches is read off these
four:

* `Launch.requestsOf_run`, `Launch.started_eq`   what is asked of the operating system, and when;
* `Launch.resolutionsOf_run`   no resolver is asked;
* `Launch.fails_of_run`   a failure has the launch's label and command line;
* `Launch.run_alike`      the result is told by what is seen, whatever was asked.
-/

namespace PromptDispatch

/-! ## effects -/

namespace Effect

def resolution? : Effect → Option (String × String × InvocationMode)
  | .resolve agent command mode => some (agent, command, mode)
  | _ => none

def request? : Effect → Option SpawnRequest
  | .spawn request _ => some request
  | _ => none

def event? : Effect → Option Event
  | .log event => some event
  | _ => none

end Effect

def requestsOf (es : List Effect) : List SpawnRequest := es.filterMap Effect.request?

def eventsOf (es : List Effect) : List Event := es.filterMap Effect.event?

def resolutionsOf (es : List Effect) : List (String × String × InvocationMode) :=
  es.filterMap Effect.resolution?

theorem Effect.request?_of_resolution {e : Effect} (h : e.resolution?.isSome = true) :
    e.request? = none := by
  cases e with
  | resolve => rfl
  | _ => cases h

section
variable {asked : List Effect} (hasked : ∀ e ∈ asked, e.resolution?.isSome = true)
include hasked

theorem requestsOf_of_asked : requestsOf asked = [] :=
  List.filterMap_eq_nil_iff.2 fun e he => Effect.request?_of_resolution (hasked e he)

theorem requestsOf_asked_append (done : List Effect) :
    requestsOf (asked ++ done) = requestsOf done := by
  rw [requestsOf, List.filterMap_append, ← requestsOf, requestsOf_of_asked hasked]
  rfl

end

namespace Launch

variable {l : Launch} {s : Surroundings} {c : ChildRun} {e : Effect}

/-! ## the courses of a launch -/

/-- what a launch meets, with its result and its effects -/
inductive Course (l : Launch) (s : Surroundings) : Traced (Except Failure String) → Prop
  | stopped (reason : Interruption) (hcontext : s.interruption = some reason) :
    Course l s (.error (l.interrupted reason), [])
  | noFile (fault : SystemFault) (hcontext : s.interruption = none)
    (hfile : s.captureFile = .error fault) :
    Course l s (.error (l.failed (.capture fault) ""), [.openCapture])
  | noChild (fault : SystemFault) (hcontext : s.interruption = none)
    (hfile : s.captureFile = .ok ()) (hspawn : s.spawn l.request = .error fault) :
    Course l s (.error (l.failed (.spawn fault) ""),
      [.openCapture, .log (.spawning l.label l.display), .spawn l.request false])
  | child (c : ChildRun) (hcontext : s.interruption = none) (hfile : s.captureFile = .ok ())
    (hspawn : s.spawn l.request = .ok c) :
    Course l s ((l.finish c).1,
      .openCapture :: .log (.spawning l.label l.display) :: .spawn l.request true :: (l.finish c).2)

theorem run_of_stopped {reason : Interruption} (hcontext : s.interruption = some reason) :
    l.run s = (.error (l.interrupted reason), []) := by
  rw [run, hcontext]

theorem run_of_no_file {fault : SystemFault} (hcontext : s.interruption = none)
    (hfile : s.captureFile = .error fault) :
    l.run s = (.error (l.failed (.capture fault) ""), [.openCapture]) := by
  rw [run, hcontext, hfile]

theorem run_of_no_child {fault : SystemFault} (hcontext : s.interruption = none)
    (hfile : s.captureFile = .ok ()) (hspawn : s.spawn l.request = .error fault) :
    l.run s = (.error (l.failed (.spawn fault) ""),
      [.openCapture, .log (.spawning l.label l.display), .spawn l.request false]) := by
  rw [run, hcontext, hfile, start, hspawn]

theorem run_of_child (hcontext : s.interruption = none) (hfile : s.captureFile = .ok ())
    (hspawn : s.spawn l.request = .ok c) :
    l.run s = ((l.finish c).1, .openCapture :: .log (.spawning l.label l.display) ::
      .spawn l.request true :: (l.finish c).2) := by
  rw [run, hcontext, hfile, start, hspawn]

theorem course (l : Launch) (s : Surroundings) : l.Course s (l.run s) := by
  cases hcontext : s.interruption with
  | some reason =>
    rw [run_of_stopped hcontext]
    exact .stopped reason hcontext
  | none =>
    cases hfile : s.captureFile with
    | error fault =>
      rw [run_of_no_file hcontext hfile]
      exact .noFile fault hcontext hfile
    | ok u =>
      cases hspawn : s.spawn l.request with
      | error fault =>
        rw [run_of_no_child hcontext hfile hspawn]
        exact .noChild fault hcontext hfile hspawn
      | ok c =>
        rw [run_of_child hcontext hfile hspawn]
        exact .child c hcontext hfile hspawn

/-- what the wait for a child leads to, with the result and the effects after the start -/
inductive Finish (l : Launch) (c : ChildRun) : Traced (Except Failure String) → Prop
  | exited (status : WaitStatus) (interruption : Option Interruption)
    (hp : c.EndsAt ⟨.exited status, interruption⟩) :
    Finish l c (l.exited status c.captured, [.readCapture])
  | interrupted (reason : Interruption) (hp : c.EndsAt ⟨.running, some reason⟩) :
    Finish l c (.error (l.interrupted reason),
      [.killGroup, .killChild, .reap, .log (.terminated l.label reason)])
  | lost (fault : SystemFault) (interruption : Option Interruption)
    (hp : c.EndsAt ⟨.lost fault, interruption⟩) :
    Finish l c ((l.lost fault c.captured).1,
      [.killGroup, .killChild, .reap] ++ (l.lost fault c.captured).2)

theorem finishes (l : Launch) (c : ChildRun) : l.Finish c (l.finish c) := by
  obtain ⟨p, hp, hends⟩ := c.exists_endsAt
  rw [finish]
  generalize c.wait = stop at hends ⊢
  cases hends with
  | exited status interruption => exact .exited status interruption hp
  | interrupted reason => exact .interrupted reason hp
  | lost fault interruption => exact .lost fault interruption hp

/-! ## what is done -/

theorem mem_lost {fault : SystemFault} {captured : Except SystemFault (List UInt8)}
    (h : e ∈ (l.lost fault captured).2) : e = .readCapture ∨ ∃ event, e = .log event := by
  cases captured with
  | ok bytes => exact .inl (List.mem_singleton.1 h)
  | error fault' => exact (List.mem_cons.1 h).imp_right fun he => ⟨_, List.mem_singleton.1 he⟩

theorem mem_finish (h : e ∈ (l.finish c).2) :
    e ∈ termination ∨ e = .readCapture ∨ ∃ event, e = .log event := by
  have hfinish := l.finishes c
  generalize l.finish c = t at h hfinish
  cases hfinish with
  | exited => exact .inr (.inl (List.mem_singleton.1 h))
  | interrupted reason =>
    rcases List.mem_append.1 (show e ∈ termination ++ [.log (.terminated l.label reason)] from h)
      with h | h
    · exact .inl h
    · exact .inr (.inr ⟨_, List.mem_singleton.1 h⟩)
  | lost => exact (List.mem_append.1 h).imp_right mem_lost

theorem request?_of_mem_finish (h : e ∈ (l.finish c).2) :
    e.request? = none ∧ e.resolution? = none := by
  rcases mem_finish h with h | rfl | ⟨event, rfl⟩
  · simp only [termination, List.mem_cons, List.not_mem_nil, or_false] at h
    rcases h with rfl | rfl | rfl <;> exact ⟨rfl, rfl⟩
  · exact ⟨rfl, rfl⟩
  · exact ⟨rfl, rfl⟩

theorem requestsOf_finish : requestsOf (l.finish c).2 = [] :=
  List.filterMap_eq_nil_iff.2 fun _ h => (request?_of_mem_finish h).1

theorem resolutionsOf_finish : resolutionsOf (l.finish c).2 = [] :=
  List.filterMap_eq_nil_iff.2 fun _ h => (request?_of_mem_finish h).2

theorem resolutionsOf_run (l : Launch) (s : Surroundings) : resolutionsOf (l.run s).2 = [] := by
  have h := l.course s
  generalize l.run s = t at h ⊢
  cases h with
  | stopped | noFile | noChild => rfl
  | child c => exact resolutionsOf_finish

/-- A launch asks for its process once, unless the context stops it or there is no file. -/
theorem requestsOf_run (l : Launch) (s : Surroundings) :
    (s.interruption = none ∧ s.captureFile = .ok () ∧ requestsOf (l.run s).2 = [l.request]) ∨
      (¬(s.interruption = none ∧ s.captureFile = .ok ()) ∧ requestsOf (l.run s).2 = [] ∧
        ∀ e ∈ (l.run s).2, e = .openCapture) := by
  have h := l.course s
  generalize l.run s = t at h ⊢
  cases h with
  | stopped reason hcontext =>
    exact .inr ⟨by simp [hcontext], rfl, by simp⟩
  | noFile fault hcontext hfile =>
    exact .inr ⟨by simp [hfile], rfl, by simp⟩
  | noChild fault hcontext hfile hspawn => exact .inl ⟨hcontext, hfile, rfl⟩
  | child c hcontext hfile hspawn =>
    exact .inl ⟨hcontext, hfile, congrArg (l.request :: ·) requestsOf_finish⟩

/-- a process is started where the operating system grants the request -/
theorem started_eq {r : SpawnRequest} {started : Bool} (h : .spawn r started ∈ (l.run s).2) :
    started = (s.spawn r).isOk := by
  have hcourse := l.course s
  generalize l.run s = t at h hcourse
  cases hcourse with
  | stopped reason => cases h
  | noFile fault => cases List.mem_singleton.1 h
  | noChild fault hcontext hfile hspawn =>
    simp only [List.mem_cons, reduceCtorEq, Effect.spawn.injEq, List.not_mem_nil, or_false,
      false_or] at h
    obtain ⟨rfl, rfl⟩ := h
    rw [hspawn]
    rfl
  | child c hcontext hfile hspawn =>
    simp only [List.mem_cons, reduceCtorEq, Effect.spawn.injEq, false_or] at h
    rcases h with ⟨rfl, rfl⟩ | h
    · rw [hspawn]
      rfl
    · cases (request?_of_mem_finish h).1

/-! ## failures -/

/-- the failures of a launch: all have its label and its command line -/
inductive Fails (l : Launch) : Failure → Prop
  | failed (fault : ProcessFault) (output : String) : Fails l (l.failed fault output)
  | interrupted (reason : Interruption) : Fails l (l.interrupted reason)

theorem fails_of_exited {status : WaitStatus} {captured : Except SystemFault (List UInt8)}
    {f : Failure} (h : l.exited status captured = .error f) : l.Fails f := by
  cases captured with
  | error fault =>
    cases h
    exact .failed _ _
  | ok bytes =>
    rw [exited] at h
    split at h
    · cases h
    · cases h
      exact .failed _ _

theorem fails_of_lost {fault : SystemFault} {captured : Except SystemFault (List UInt8)}
    {f : Failure} (h : (l.lost fault captured).1 = .error f) : l.Fails f := by
  cases captured with
  | ok bytes =>
    cases h
    exact .failed _ _
  | error fault' =>
    cases h
    exact .failed _ _

theorem fails_of_finish {f : Failure} (h : (l.finish c).1 = .error f) : l.Fails f := by
  have hfinish := l.finishes c
  generalize l.finish c = t at h hfinish
  cases hfinish with
  | exited => exact fails_of_exited h
  | interrupted reason =>
    cases h
    exact .interrupted reason
  | lost => exact fails_of_lost h

theorem fails_of_run {f : Failure} (h : (l.run s).1 = .error f) : l.Fails f := by
  have hcourse := l.course s
  generalize l.run s = t at h hcourse
  cases hcourse with
  | stopped reason =>
    cases h
    exact .interrupted reason
  | noFile fault =>
    cases h
    exact .failed _ _
  | noChild fault =>
    cases h
    exact .failed _ _
  | child c => exact fails_of_finish h

/-- a launch that fails tells of its process, or of what stopped it -/
theorem Fails.exitCode {f : Failure} (h : l.Fails f) : f.exitCode = 3 ∨ f.exitCode = 4 := by
  cases h with
  | failed fault output => exact .inl rfl
  | interrupted reason => cases reason <;> exact .inr rfl

/-! ## two launches -/

end Launch

/-- the operating system refuses alike, or it starts children of which the same is seen -/
inductive SeenAlike : (answer answer' : Except SystemFault ChildRun) → Prop
  | refused (fault : SystemFault) : SeenAlike (.error fault) (.error fault)
  | started {c c' : ChildRun} (hseen : c.seen = c'.seen) (hcaptured : c.captured = c'.captured) :
    SeenAlike (.ok c) (.ok c')

/-- The same is seen by two invocations that have done `done` and `done'`: the context before the
start, whether there is a file for the output, and the answers to all that was asked for. -/
structure Surroundings.Alike (s s' : Surroundings) (done done' : List Effect) : Prop where
  context : s.interruption = s'.interruption
  file : s.captureFile = s'.captureFile
  spawn : ∀ r ∈ requestsOf done, ∀ r' ∈ requestsOf done', SeenAlike (s.spawn r) (s'.spawn r')

namespace Launch

variable {s' : Surroundings} {c' : ChildRun}

theorem request_mem_requestsOf (l : Launch) (hcontext : s.interruption = none)
    (hfile : s.captureFile = .ok ()) : l.request ∈ requestsOf (l.run s).2 := by
  rcases requestsOf_run l s with ⟨-, -, h⟩ | ⟨h, -⟩
  · rw [h]
    exact List.mem_singleton_self _
  · exact absurd ⟨hcontext, hfile⟩ h

theorem finish_alike (l : Launch) (hseen : c.seen = c'.seen)
    (hcaptured : c.captured = c'.captured) : l.finish c = l.finish c' := by
  rw [finish, finish, ChildRun.wait_congr hseen, hcaptured]

/-- The request itself is in neither the result nor the log. -/
theorem run_alike (l : Launch) (r : SpawnRequest)
    (h : s.Alike s' (l.run s).2 ({ l with request := r }.run s').2) :
    (l.run s).1 = ({ l with request := r }.run s').1 ∧
      eventsOf (l.run s).2 = eventsOf ({ l with request := r }.run s').2 := by
  obtain ⟨hcontext, hfile, hspawn⟩ := h
  cases hc : s.interruption with
  | some reason =>
    rw [run_of_stopped hc, run_of_stopped (hcontext ▸ hc)]
    exact ⟨rfl, rfl⟩
  | none =>
    have hc' : s'.interruption = none := hcontext ▸ hc
    cases hf : s.captureFile with
    | error fault =>
      rw [run_of_no_file hc hf, run_of_no_file hc' (hfile ▸ hf)]
      exact ⟨rfl, rfl⟩
    | ok u =>
      have hf' : s'.captureFile = .ok () := hfile ▸ hf
      -- the requests differ, and only the answers to them are alike
      have hanswers : SeenAlike (s.spawn l.request) (s'.spawn r) :=
        hspawn _ (request_mem_requestsOf l hc hf) _ (request_mem_requestsOf _ hc' hf')
      generalize ha : s.spawn l.request = answer at hanswers
      generalize ha' : s'.spawn r = answer' at hanswers
      cases hanswers with
      | refused fault =>
        rw [run_of_no_child hc hf ha, run_of_no_child hc' hf' ha']
        exact ⟨rfl, rfl⟩
      | @started c c' hseen hcaptured =>
        have hfinish : l.finish c = ({ l with request := r } : Launch).finish c' :=
          finish_alike l hseen hcaptured
        rw [run_of_child hc hf ha, run_of_child hc' hf' ha', hfinish]
        exact ⟨rfl, rfl⟩

end Launch

end PromptDispatch

import PromptDispatch.Proofs.Invocation.Supervision
import PromptDispatch.Proofs.Program.Courses

/-!
# What an exit code tells

Each course of a run has its exit codes, so that the code of a run tells its course:

* `ExitedWell`      one child was started, and it exited well;
* `Coded`           the codes that there are, with what each of them tells;
* `exit_code_law`   the law of exit codes.
-/

namespace PromptDispatch

/-! ## questions to a resolver -/

section
variable {asked done : List Effect} (hasked : ∀ e ∈ asked, e.resolution?.isSome = true)
include hasked

theorem endingsOf_of_asked : endingsOf asked = [] := by
  refine List.filter_eq_nil_iff.2 fun e he => ?_
  cases e with
  | resolve => exact Bool.false_ne_true
  | _ => cases hasked _ he

theorem endingsOf_asked_append : endingsOf (asked ++ done) = endingsOf done := by
  rw [endingsOf, List.filter_append, ← endingsOf, endingsOf_of_asked hasked]
  rfl

variable {s : Surroundings} {r : SpawnRequest}

theorem EndedOnce.asked_append (h : EndedOnce r done) : EndedOnce r (asked ++ done) := by
  obtain ⟨before, after, rfl, hbefore, hafter⟩ := h
  refine ⟨asked ++ before, after, by rw [List.append_assoc], ?_, hafter⟩
  rw [endingsOf_asked_append hasked, hbefore]

theorem ContextFires.asked_append (h : ContextFires s r done) :
    ContextFires s r (asked ++ done) := by
  cases h with
  | before reason hcontext hdone =>
    exact .before reason hcontext (by rw [requestsOf_asked_append hasked, hdone])
  | during c reason hspawn hp hdone => exact .during c reason hspawn hp (hdone.asked_append hasked)

end

theorem ProcessFails.asked_append {s : Surroundings} {r : SpawnRequest} {done : List Effect}
    (h : ProcessFails s r done) (asked : List Effect) : ProcessFails s r (asked ++ done) := by
  have hmem : ∀ e ∈ done, e ∈ asked ++ done := fun e => List.mem_append_right asked
  cases h with
  | noFile fault hfile hdone => exact .noFile fault hfile (hmem _ hdone)
  | noChild fault hspawn hdone => exact .noChild fault hspawn (hmem _ hdone)
  | lost c fault interruption hspawn hp hdone =>
    exact .lost c fault interruption hspawn hp (hmem _ hdone)
  | unread c fault hspawn hcaptured hdone => exact .unread c fault hspawn hcaptured (hmem _ hdone)
  | exited c status interruption hspawn hp hstatus hdone =>
    exact .exited c status interruption hspawn hp hstatus (hmem _ hdone)

namespace Program

variable {o : Outside} {q : Request} {r : Except Fault Unit} {done : List Effect}

/-! ## codes of courses -/

/-- One child was started, as the request comes to, and it exited well and was left alone. -/
def ExitedWell (o : Outside) (q : Request) (done : List Effect) : Prop :=
  ∃ l s c status interruption, Launches o q l s ∧ requestsOf done = [l.request] ∧
    .spawn l.request true ∈ done ∧ s.spawn l.request = .ok c ∧
    c.EndsAt ⟨.exited status, interruption⟩ ∧ status.success = true ∧ endingsOf done = []

theorem exitedWell_of_ok {l : Launch} {s : Surroundings} {asked : List Effect} {output : String}
    (hl : Launches o q l s) (hasked : ∀ e ∈ asked, e.resolution?.isSome = true)
    (h : (l.run s).1 = .ok output) : ExitedWell o q (asked ++ (l.run s).2) := by
  obtain ⟨c, status, interruption, hspawn, hp, hstatus, hstarted, hendings⟩ := Launch.exited_of_ok h
  have hrequests : requestsOf (l.run s).2 = [l.request] := by
    rcases Launch.requestsOf_run l s with ⟨-, -, hone⟩ | ⟨-, -, honly⟩
    · exact hone
    · cases honly _ hstarted
  refine ⟨l, s, c, status, interruption, hl, ?_, List.mem_append_right _ hstarted, hspawn, hp,
    hstatus, ?_⟩
  · rw [requestsOf_asked_append hasked, hrequests]
  · rw [endingsOf_asked_append hasked, hendings]

/-- The exit codes of a course, with what each of them tells. -/
inductive Coded (o : Outside) (q : Request) (done : List Effect) : Nat → Prop
  | idle (n : Nat) (hn : n ≤ 2) (hq : q.action.launches = false) (hdone : done = []) :
    Coded o q done n
  | mistake (hdone : requestsOf done = []) : Coded o q done 1
  | answered (hq : q.action.launches = true) (hdone : ExitedWell o q done) : Coded o q done 0
  | misshapen (rq : RunRequest) (hq : q.action = .run rq) (hdone : ExitedWell o q done) :
    Coded o q done 2
  | failed (l : Launch) (s : Surroundings) (hl : Launches o q l s)
    (hdone : ProcessFails s l.request done) : Coded o q done 3
  | stopped (l : Launch) (s : Surroundings) (hl : Launches o q l s)
    (hdone : ContextFires s l.request done) : Coded o q done 4

theorem coded_of_course (h : Course o q r done) : Coded o q done (resultCode r) := by
  cases h with
  | idle r hq hcode =>
    cases r with
    | ok u => exact .idle 0 (Nat.zero_le 2) hq rfl
    | error f => exact .idle _ (hcode f rfl) hq rfl
  | refused f asked hcode hasked =>
    rw [resultCode, hcode]
    exact .mistake (requestsOf_of_asked hasked)
  | failed l s asked f hl hasked hresult =>
    rcases Launch.fails_because hresult with ⟨hcode, hfails⟩ | ⟨hcode, hfires⟩
    · rw [show resultCode (.error (.failure f)) = 3 from hcode]
      exact .failed l s hl (hfails.asked_append asked)
    · rw [show resultCode (.error (.failure f)) = 4 from hcode]
      exact .stopped l s hl (hfires.asked_append hasked)
  | answered l s asked output r hl hasked hresult hprinted =>
    have hdone := exitedWell_of_ok hl hasked hresult
    cases hprinted with
    | whole => exact .answered hl.launches hdone
    | refused rq label problems hq => exact .misshapen rq hq hdone

theorem coded_outcome (o : Outside) (q : Request) :
    Coded o q (outcome o q).effects (outcome o q).exitCode := by
  obtain ⟨r, hcode, hcourse⟩ := course_outcome o q
  rw [hcode]
  exact coded_of_course hcourse

/-! ## the law -/

/-- **What an exit code tells.**  After 1 no process was asked for.  After 0 a run or an execution
has started one child, which exited well, and so has a run after 2; an execution does not give 2.
After 3 a process failed and after 4 the context fired, and then a child that was started has been
ended.  A request that launches nothing gives neither. -/
theorem exit_code_law (o : Outside) (q : Request) :
    ((outcome o q).exitCode = 1 → requestsOf (outcome o q).effects = []) ∧
      (q.action.launches = true → (outcome o q).exitCode = 0 ∨ (outcome o q).exitCode = 2 →
        ExitedWell o q (outcome o q).effects) ∧
      (∀ rq, q.action = .exec rq → (outcome o q).exitCode ≠ 2) ∧
      ((outcome o q).exitCode = 3 →
        ∃ l s, Launches o q l s ∧ ProcessFails s l.request (outcome o q).effects) ∧
      ((outcome o q).exitCode = 4 →
        ∃ l s, Launches o q l s ∧ ContextFires s l.request (outcome o q).effects) ∧
      (q.action.launches = false → (outcome o q).exitCode ≤ 2) := by
  have hcoded := coded_outcome o q
  generalize (outcome o q).effects = done at hcoded ⊢
  generalize (outcome o q).exitCode = code at hcoded ⊢
  cases hcoded with
  | idle n hn hq hdone =>
    refine ⟨fun _ => hdone ▸ rfl, fun hq' => ?_, fun rq hrq => ?_, by omega, by omega, fun _ => hn⟩
    · rw [hq] at hq'
      cases hq'
    · rw [hrq] at hq
      cases hq
  | mistake hdone => simp [hdone]
  | answered hq hdone => simp [hq, hdone]
  | misshapen rq hq hdone => simp [hq, hdone]
  | failed l s hl hdone =>
    refine ⟨by simp, by simp, by simp, fun _ => ⟨l, s, hl, hdone⟩, by simp, ?_⟩
    simp [hl.launches]
  | stopped l s hl hdone =>
    refine ⟨by simp, by simp, by simp, by simp, fun _ => ⟨l, s, hl, hdone⟩, ?_⟩
    simp [hl.launches]

/-- a prompt that is read, and a child that runs until its time is over or exits just before -/
theorem exit_code_law_timed :
    let late : ChildRun :=
      ⟨[⟨.running, none⟩, ⟨.running, some (.timedOut default)⟩], .ok [], by decide⟩
    let soon : ChildRun :=
      ⟨[⟨.running, none⟩, ⟨.exited (.ofExit 0), some (.timedOut default)⟩], .ok [], by decide⟩
    let outside : ChildRun → Outside := fun c =>
      { pathExists := fun _ => false, readFile := fun _ => .error .notFound, input := .ok "go on"
        vars := [], surroundings := fun _ => { spawn := fun _ => .ok c } }
    let q : Request := { action := .exec { command := "llm -m x", prompt := "-" } }
    (∃ l s, Launches (outside late) q l s ∧
        ContextFires s l.request (outcome (outside late) q).effects) ∧
      ExitedWell (outside soon) q (outcome (outside soon) q).effects := by
  intro late soon outside q
  obtain ⟨-, -, -, -, hstopped, -⟩ := exit_code_law (outside late) q
  obtain ⟨-, hexited, -⟩ := exit_code_law (outside soon) q
  exact ⟨hstopped (by decide +kernel), hexited rfl (.inl (by decide +kernel))⟩

end Program

end PromptDispatch

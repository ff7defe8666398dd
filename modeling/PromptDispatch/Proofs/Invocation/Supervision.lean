import PromptDispatch.Proofs.Invocation.Launch

/-!
# No child is left running

A wait goes on while the polls are quiet and ends at the first that is not, whatever would come
after it (`waitForExit_pollsOf`).  From there a launch goes on in one of three ways
(`Launch.Finish`), and what is done to a child that was started is read off them:

* `DealtWith`   the child had exited, or it was killed with its group and reaped, once;
* `Launch.dealtWith`   a launch has dealt with its child before it gives a result;
* `Launch.exited_of_ok`   there is an output only of a child that exited well by itself;
* `Launch.fails_because`   there is none because the process failed or the context fired;
* `no_child_left_running`   the law of waits and launches.
-/

namespace PromptDispatch

/-! ## schedules -/

def pollsOf (schedule : Nat → Poll) (n : Nat) : List Poll := (List.range n).map schedule

section
variable {schedule : Nat → Poll} {k : Nat} (hquiet : ∀ j < k, (schedule j).isQuiet = true)
  (hk : (schedule k).isQuiet = false)
include hquiet hk

theorem exists_mem_pollsOf_iff (n : Nat) :
    (∃ p ∈ pollsOf schedule n, p.isQuiet = false) ↔ k < n := by
  simp only [pollsOf, List.mem_map, List.mem_range]
  constructor
  · rintro ⟨-, ⟨j, hj, rfl⟩, hp⟩
    refine Nat.lt_of_le_of_lt (Nat.le_of_not_lt fun hjk => ?_) hj
    rw [hquiet j hjk] at hp
    cases hp
  · intro hn
    exact ⟨_, ⟨k, hn, rfl⟩, hk⟩

/-- The wait ends at poll `k`, however many polls there would be. -/
theorem waitForExit_pollsOf {n : Nat} (ends : ∃ p ∈ pollsOf schedule n, p.isQuiet = false) :
    (schedule k).Ends (waitForExit (pollsOf schedule n) ends) := by
  obtain ⟨quiet, p, rest, hpolls, hquiet', hp, hstop⟩ := exists_of_waitForExit _ ends
  have hat : ∀ j (hj : j < (pollsOf schedule n).length), (pollsOf schedule n)[j] = schedule j :=
    fun j hj => by simp only [pollsOf, List.getElem_map, List.getElem_range]
  rw [hpolls] at hat
  have hlast : p = schedule quiet.length := by
    rw [← hat quiet.length (by simp), List.getElem_append_right (Nat.le_refl _)]
    simp
  -- of two first polls that are not quiet neither comes before the other
  have heq : quiet.length = k := by
    rcases Nat.lt_trichotomy quiet.length k with hlt | heq | hgt
    · rw [hlast, hquiet _ hlt] at hp
      cases hp
    · exact heq
    · have hk' : quiet[k] = schedule k := by
        rw [← hat k (by simp; omega), List.getElem_append_left hgt]
      rw [← hk', hquiet' _ (List.getElem_mem hgt)] at hk
      cases hk
  rw [hlast, heq] at hstop
  exact Poll.ends_of_stop? hstop

end

/-! ## what is done to a child -/

def Effect.isEnding : Effect → Bool
  | .killGroup | .killChild | .reap => true
  | _ => false

/-- what is done to end children, in order -/
def endingsOf (es : List Effect) : List Effect := es.filter Effect.isEnding

/-- a child was killed with its group and reaped, once and after its start -/
def EndedOnce (r : SpawnRequest) (done : List Effect) : Prop :=
  ∃ before after, done = before ++ .spawn r true :: ([.killGroup, .killChild, .reap] ++ after) ∧
    endingsOf before = [] ∧ endingsOf after = []

/-- What was done has dealt with a child that was started: the child was seen to have exited and was
left alone, or it was ended. -/
inductive DealtWith (c : ChildRun) (r : SpawnRequest) (done : List Effect) : Prop
  | exited (status : WaitStatus) (interruption : Option Interruption)
    (hp : c.EndsAt ⟨.exited status, interruption⟩) (hdone : endingsOf done = [])
  | ended (p : Poll) (hp : c.EndsAt p) (hchild : ∀ status, p.child ≠ .exited status)
    (hdone : EndedOnce r done)

namespace Launch

variable {l : Launch} {s : Surroundings} {r : SpawnRequest}

theorem endingsOf_lost (fault : SystemFault) (captured : Except SystemFault (List UInt8)) :
    endingsOf (l.lost fault captured).2 = [] := by
  cases captured <;> rfl

theorem endedOnce_of_start {after : List Effect} (hafter : endingsOf after = []) :
    EndedOnce l.request (.openCapture :: .log (.spawning l.label l.display) ::
      .spawn l.request true :: ([.killGroup, .killChild, .reap] ++ after)) :=
  ⟨[.openCapture, .log (.spawning l.label l.display)], after, rfl, rfl, hafter⟩

/-- A child that was started has been dealt with when its launch gives a result. -/
theorem dealtWith (h : .spawn r true ∈ (l.run s).2) :
    ∃ c, s.spawn r = .ok c ∧ DealtWith c r (l.run s).2 := by
  have hcourse := l.course s
  generalize l.run s = t at h hcourse
  cases hcourse with
  | stopped => cases h
  | noFile => cases List.mem_singleton.1 h
  | noChild =>
    simp only [List.mem_cons, reduceCtorEq, Effect.spawn.injEq, Bool.true_eq_false, and_false,
      List.not_mem_nil, or_false] at h
  | child c hcontext hfile hspawn =>
    have hr : r = l.request := by
      simp only [List.mem_cons, reduceCtorEq, Effect.spawn.injEq, and_true, false_or] at h
      rcases h with h | h
      · exact h
      · cases (request?_of_mem_finish h).1
    rw [hr]
    refine ⟨c, hspawn, ?_⟩
    have hfinish := l.finishes c
    generalize l.finish c = t at hfinish
    cases hfinish with
    | exited status interruption hp => exact .exited status interruption hp rfl
    | interrupted reason hp => exact .ended _ hp (fun _ => nofun) (endedOnce_of_start rfl)
    | lost fault interruption hp =>
      exact .ended _ hp (fun _ => nofun) (endedOnce_of_start (endingsOf_lost fault c.captured))

theorem success_of_exited {status : WaitStatus} {captured : Except SystemFault (List UInt8)}
    {output : String} (h : l.exited status captured = .ok output) : status.success = true := by
  cases captured with
  | error fault => cases h
  | ok bytes =>
    rw [exited] at h
    split at h
    · assumption
    · cases h

/-- An output is that of a child which exited well and was left alone. -/
theorem exited_of_ok {output : String} (h : (l.run s).1 = .ok output) :
    ∃ c status interruption, s.spawn l.request = .ok c ∧
      c.EndsAt ⟨.exited status, interruption⟩ ∧ status.success = true ∧
      .spawn l.request true ∈ (l.run s).2 ∧ endingsOf (l.run s).2 = [] := by
  have hcourse := l.course s
  generalize l.run s = t at h hcourse ⊢
  cases hcourse with
  | stopped | noFile | noChild => cases h
  | child c hcontext hfile hspawn =>
    have hfinish := l.finishes c
    generalize l.finish c = t at h hfinish ⊢
    cases hfinish with
    | exited status interruption hp =>
      exact ⟨c, status, interruption, hspawn, hp, success_of_exited h, by simp, rfl⟩
    | interrupted => cases h
    | lost fault =>
      generalize c.captured = captured at h
      cases captured <;> cases h

end Launch

/-! ## why there is no output -/

/-- A process failed: there was no file for its output, it was not started, its state or its output
was lost, or it exited with a status that is no success. -/
inductive ProcessFails (s : Surroundings) (r : SpawnRequest) (done : List Effect) : Prop
  | noFile (fault : SystemFault) (hfile : s.captureFile = .error fault)
    (hdone : .openCapture ∈ done)
  | noChild (fault : SystemFault) (hspawn : s.spawn r = .error fault)
    (hdone : .spawn r false ∈ done)
  | lost (c : ChildRun) (fault : SystemFault) (interruption : Option Interruption)
    (hspawn : s.spawn r = .ok c) (hp : c.EndsAt ⟨.lost fault, interruption⟩)
    (hdone : .spawn r true ∈ done)
  | unread (c : ChildRun) (fault : SystemFault) (hspawn : s.spawn r = .ok c)
    (hcaptured : c.captured = .error fault) (hdone : .readCapture ∈ done)
  | exited (c : ChildRun) (status : WaitStatus) (interruption : Option Interruption)
    (hspawn : s.spawn r = .ok c) (hp : c.EndsAt ⟨.exited status, interruption⟩)
    (hstatus : status.success = false) (hdone : .spawn r true ∈ done)

/-- The context fired: before anything was asked for, or while a child ran, which was ended. -/
inductive ContextFires (s : Surroundings) (r : SpawnRequest) (done : List Effect) : Prop
  | before (reason : Interruption) (hcontext : s.interruption = some reason)
    (hdone : requestsOf done = [])
  | during (c : ChildRun) (reason : Interruption) (hspawn : s.spawn r = .ok c)
    (hp : c.EndsAt ⟨.running, some reason⟩) (hdone : EndedOnce r done)

namespace Launch

variable {l : Launch} {s : Surroundings}

theorem exitCode_interrupted (l : Launch) (reason : Interruption) :
    (l.interrupted reason).exitCode = 4 := by
  cases reason <;> rfl

theorem failed_of_exited {status : WaitStatus} {captured : Except SystemFault (List UInt8)}
    {f : Failure} (h : l.exited status captured = .error f) :
    f.exitCode = 3 ∧ (status.success = false ∨ ∃ fault, captured = .error fault) := by
  cases captured with
  | error fault =>
    cases h
    exact ⟨rfl, .inr ⟨fault, rfl⟩⟩
  | ok bytes =>
    rw [exited] at h
    split at h
    · cases h
    · cases h
      exact ⟨rfl, .inl (by simpa using ‹¬status.success = true›)⟩

theorem exitCode_lost {fault : SystemFault} {captured : Except SystemFault (List UInt8)}
    {f : Failure} (h : (l.lost fault captured).1 = .error f) : f.exitCode = 3 := by
  cases captured <;> cases h <;> rfl

/-- A launch fails because its process does, or because the context fires. -/
theorem fails_because {f : Failure} (h : (l.run s).1 = .error f) :
    (f.exitCode = 3 ∧ ProcessFails s l.request (l.run s).2) ∨
      (f.exitCode = 4 ∧ ContextFires s l.request (l.run s).2) := by
  have hcourse := l.course s
  generalize l.run s = t at h hcourse ⊢
  cases hcourse with
  | stopped reason hcontext =>
    cases h
    exact .inr ⟨exitCode_interrupted l reason, .before reason hcontext rfl⟩
  | noFile fault hcontext hfile =>
    cases h
    exact .inl ⟨rfl, .noFile fault hfile (by simp)⟩
  | noChild fault hcontext hfile hspawn =>
    cases h
    exact .inl ⟨rfl, .noChild fault hspawn (by simp)⟩
  | child c hcontext hfile hspawn =>
    have hfinish := l.finishes c
    generalize l.finish c = t at h hfinish ⊢
    cases hfinish with
    | exited status interruption hp =>
      obtain ⟨hcode, hstatus | ⟨fault, hcaptured⟩⟩ := failed_of_exited h
      · exact .inl ⟨hcode, .exited c status interruption hspawn hp hstatus (by simp)⟩
      · exact .inl ⟨hcode, .unread c fault hspawn hcaptured (by simp)⟩
    | interrupted reason hp =>
      cases h
      refine .inr ⟨exitCode_interrupted l reason, ?_⟩
      exact .during c reason hspawn hp (endedOnce_of_start rfl)
    | lost fault interruption hp =>
      exact .inl ⟨exitCode_lost h, .lost c fault interruption hspawn hp (by simp)⟩

end Launch

/-! ## the law -/

/-- **No child is left running.**  A wait ends at the first poll that is not quiet, whatever would
come after it: with the status of a child that has exited, though there be a reason to stop it, and
otherwise, once the child has been killed with its group and reaped, with the reason or the fault.
A launch that started a child has dealt with it before it gives a result, and gives an output only
of a child that exited well by itself. -/
theorem no_child_left_running (l : Launch) (s : Surroundings) :
    (∀ (schedule : Nat → Poll) (k : Nat), (∀ j < k, (schedule j).isQuiet = true) →
      (schedule k).isQuiet = false →
        ∀ n, ((∃ p ∈ pollsOf schedule n, p.isQuiet = false) ↔ k < n) ∧
          ∀ ends, (schedule k).Ends (waitForExit (pollsOf schedule n) ends)) ∧
      (∀ r, .spawn r true ∈ (l.run s).2 → ∃ c, s.spawn r = .ok c ∧ DealtWith c r (l.run s).2) ∧
      ∀ output, (l.run s).1 = .ok output →
        ∃ c status interruption, s.spawn l.request = .ok c ∧
          c.EndsAt ⟨.exited status, interruption⟩ ∧ status.success = true ∧
          .spawn l.request true ∈ (l.run s).2 ∧ endingsOf (l.run s).2 = [] :=
  ⟨fun _ _ hquiet hk n =>
      ⟨exists_mem_pollsOf_iff hquiet hk n, fun ends => waitForExit_pollsOf hquiet hk ends⟩,
    fun _ => Launch.dealtWith, fun _ => Launch.exited_of_ok⟩

/-- a child that exits as it is cancelled, and one that would have exited well but runs too long -/
theorem no_child_left_running_late :
    let schedule : Nat → Poll := fun j =>
      if j < 2 then ⟨.running, none⟩ else ⟨.exited (.ofExit 0), some .cancelled⟩
    let late : ChildRun :=
      ⟨[⟨.running, none⟩, ⟨.running, some (.timedOut default)⟩, ⟨.exited (.ofExit 0), none⟩],
        .ok [], by decide⟩
    let l : Launch := ⟨"claude", "claude -p <prompt>", { program := "claude" }⟩
    let s : Surroundings := { spawn := fun _ => .ok late }
    (schedule 2).Ends (.exited (.ofExit 0), []) ∧ .spawn l.request true ∈ (l.run s).2 ∧
      DealtWith late l.request (l.run s).2 := by
  intro schedule late l s
  have h := no_child_left_running l s
  have hstarted : .spawn l.request true ∈ (l.run s).2 := by decide
  obtain ⟨c, hc, hdone⟩ := h.2.1 l.request hstarted
  cases hc
  exact ⟨(h.1 schedule 2 (by decide) (by decide) 5).2 (by decide), hstarted, hdone⟩

end PromptDispatch

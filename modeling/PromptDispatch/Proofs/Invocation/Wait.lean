import PromptDispatch.Invocation.Child

/-!
# Where a wait ends

A wait ends at the first poll that is not quiet (`exists_of_waitForExit`), so that it is told by the
polls up to that one, `ChildRun.seen`: two children of which the same is seen end their waits alike
(`ChildRun.wait_congr`).  `Poll.Ends` says what that poll makes of the wait.
-/

namespace PromptDispatch

/-- the polls up to the first that is not quiet, and that one -/
def pollsSeen : List Poll → List Poll
  | [] => []
  | p :: r => if p.isQuiet then p :: pollsSeen r else [p]

def ChildRun.seen (c : ChildRun) : List Poll := pollsSeen c.polls

theorem pollsSeen_append {quiet : List Poll} (hquiet : ∀ q ∈ quiet, q.isQuiet = true) {p : Poll}
    (hp : p.isQuiet = false) (rest : List Poll) :
    pollsSeen (quiet ++ p :: rest) = quiet ++ [p] := by
  induction quiet with
  | nil => simp [pollsSeen, hp]
  | cons q r ih =>
    obtain ⟨hq, hr⟩ := List.forall_mem_cons.1 hquiet
    rw [List.cons_append, pollsSeen, if_pos hq, ih hr, List.cons_append]

/-- the wait ends as the first poll says that is not quiet -/
theorem exists_of_waitForExit (polls : List Poll) (ends : ∃ p ∈ polls, p.isQuiet = false) :
    ∃ quiet p rest, polls = quiet ++ p :: rest ∧ (∀ q ∈ quiet, q.isQuiet = true) ∧
      p.isQuiet = false ∧ p.stop? = some (waitForExit polls ends) := by
  induction polls with
  | nil => exact absurd ends (by simp)
  | cons p r ih =>
    rw [waitForExit]
    split
    · rename_i stop h
      have hp : p.isQuiet = false := by
        rw [← Bool.not_eq_true, ← Poll.stop?_eq_none_iff, h]
        exact Option.some_ne_none _
      exact ⟨[], p, r, rfl, by simp, hp, h⟩
    · rename_i h
      have hp := (Poll.stop?_eq_none_iff p).1 h
      have hends : ∃ q ∈ r, q.isQuiet = false := by
        obtain ⟨q, hq, hq'⟩ := ends
        rcases List.mem_cons.1 hq with rfl | hq
        · rw [hp] at hq'
          cases hq'
        · exact ⟨q, hq, hq'⟩
      obtain ⟨quiet, q, rest, rfl, hquiet, hq, hstop⟩ := ih hends
      exact ⟨p :: quiet, q, rest, rfl, List.forall_mem_cons.2 ⟨hp, hquiet⟩, hq, hstop⟩

theorem ChildRun.wait_congr {c c' : ChildRun} (h : c.seen = c'.seen) : c.wait = c'.wait := by
  obtain ⟨quiet, p, rest, hpolls, hquiet, hp, hstop⟩ := exists_of_waitForExit c.polls c.ends
  obtain ⟨quiet', p', rest', hpolls', hquiet', hp', hstop'⟩ :=
    exists_of_waitForExit c'.polls c'.ends
  rw [seen, seen, hpolls, hpolls', pollsSeen_append hquiet hp, pollsSeen_append hquiet' hp'] at h
  obtain ⟨-, hlast⟩ := List.append_inj' h rfl
  rw [List.cons.injEq] at hlast
  rw [hlast.1, hstop'] at hstop
  exact (Option.some.inj hstop).symm

/-! ## the poll that decides -/

/-- How a poll ends a wait.  An exit comes before every reason to stop, and only a child that has
exited is left alone: any other is killed with its group and reaped. -/
inductive Poll.Ends : Poll → WaitEnd × List Effect → Prop
  | exited (status : WaitStatus) (interruption : Option Interruption) :
    Ends ⟨.exited status, interruption⟩ (.exited status, [])
  | interrupted (reason : Interruption) :
    Ends ⟨.running, some reason⟩ (.interrupted reason, [.killGroup, .killChild, .reap])
  | lost (fault : SystemFault) (interruption : Option Interruption) :
    Ends ⟨.lost fault, interruption⟩ (.lost fault, [.killGroup, .killChild, .reap])

theorem Poll.ends_of_stop? {p : Poll} {stop : WaitEnd × List Effect} (h : p.stop? = some stop) :
    p.Ends stop := by
  obtain ⟨child, interruption⟩ := p
  cases child with
  | exited status =>
    cases h
    exact .exited status interruption
  | lost fault =>
    cases h
    exact .lost fault interruption
  | running =>
    cases interruption with
    | none => cases h
    | some reason =>
      cases h
      exact .interrupted reason

def ChildRun.EndsAt (c : ChildRun) (p : Poll) : Prop :=
  ∃ quiet rest, c.polls = quiet ++ p :: rest ∧ (∀ q ∈ quiet, q.isQuiet = true) ∧ p.isQuiet = false

theorem ChildRun.exists_endsAt (c : ChildRun) : ∃ p, c.EndsAt p ∧ p.Ends c.wait := by
  obtain ⟨quiet, p, rest, hpolls, hquiet, hp, hstop⟩ := exists_of_waitForExit c.polls c.ends
  exact ⟨p, ⟨quiet, rest, hpolls, hquiet, hp⟩, Poll.ends_of_stop? hstop⟩

end PromptDispatch

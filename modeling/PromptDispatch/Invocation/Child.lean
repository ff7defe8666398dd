import PromptDispatch.Failure
import PromptDispatch.Invocation.Context

/-!
# Children and the wait for them

While a child runs it is polled: each `Poll` tells how the child stands and whether the context has a
reason to stop.  `waitForExit` ends at the first poll that is not quiet.  A child that has not ended
there is killed with its group and reaped.
-/

namespace PromptDispatch

/-! ## what is seen of a child -/

inductive ChildState where
  | running
  | exited (status : WaitStatus)
  /-- its state could not be found out -/
  | lost (fault : SystemFault)
  deriving DecidableEq, Repr

structure Poll where
  child : ChildState
  interruption : Option Interruption := none
  deriving DecidableEq, Repr

/-- the child is running and there is no reason to stop it -/
def Poll.isQuiet (p : Poll) : Bool := p.child = .running ∧ p.interruption = none

/-- a child as its parent sees it: the polls up to an end, and the bytes that it wrote -/
structure ChildRun where
  polls : List Poll
  captured : Except SystemFault (List UInt8)
  ends : ∃ p ∈ polls, p.isQuiet = false

/-- the program, its arguments and the variables that are asked of the operating system -/
structure SpawnRequest where
  program : String
  arguments : List String := []
  /-- none to inherit the variables of the parent -/
  environment : Option (List (String × String)) := none
  deriving DecidableEq, Repr

def SpawnRequest.argv (r : SpawnRequest) : List String := r.program :: r.arguments

/-- a word or a variable has a NUL in it, by which the operating system would cut it -/
def SpawnRequest.hasNul (r : SpawnRequest) : Bool :=
  let texts := r.argv ++ (r.environment.getD []).flatMap fun v => [v.1, v.2]
  texts.any fun t => '\x00' ∈ t.toList

/-! ## effects -/

/-- an event that is worth a line in the log -/
inductive Event where
  | spawning (agent command : String)
  | terminated (agent : String) (reason : Interruption)
  /-- the output of a child that was lost could not be read either -/
  | outputLost (agent : String) (fault : SystemFault)
  deriving DecidableEq, Repr

inductive Effect where
  | resolve (agent command : String) (mode : InvocationMode)
  | openCapture
  /-- with whether a child was started -/
  | spawn (request : SpawnRequest) (started : Bool)
  | killGroup
  | killChild
  | reap
  | readCapture
  | log (event : Event)
  deriving DecidableEq, Repr

/-- the end of a child that must not run on -/
def termination : List Effect := [.killGroup, .killChild, .reap]

/-! ## waiting -/

inductive WaitEnd where
  | exited (status : WaitStatus)
  | interrupted (reason : Interruption)
  | lost (fault : SystemFault)
  deriving DecidableEq, Repr

/-- where a poll ends the wait, and what is done there; none for a quiet poll -/
def Poll.stop? (p : Poll) : Option (WaitEnd × List Effect) :=
  match p.child, p.interruption with
  | .exited status, _ => some (.exited status, [])
  | .lost fault, _ => some (.lost fault, termination)
  | .running, some reason => some (.interrupted reason, termination)
  | .running, none => none

theorem Poll.stop?_eq_none_iff (p : Poll) : p.stop? = none ↔ p.isQuiet = true := by
  obtain ⟨child, interruption⟩ := p
  cases child <;> cases interruption <;> simp [stop?, isQuiet]

/-- polls in turn up to the first that is not quiet -/
def waitForExit (polls : List Poll) (ends : ∃ p ∈ polls, p.isQuiet = false) :
    WaitEnd × List Effect :=
  match polls with
  | [] => absurd ends (by simp)
  | p :: r =>
    match h : p.stop? with
    | some stop => stop
    | none => waitForExit r (by
        have quiet := (Poll.stop?_eq_none_iff p).1 h
        obtain ⟨q, hq, hq'⟩ := ends
        rcases List.mem_cons.1 hq with rfl | hq
        · simp [quiet] at hq'
        · exact ⟨q, hq, hq'⟩)

def ChildRun.wait (c : ChildRun) : WaitEnd × List Effect := waitForExit c.polls c.ends

end PromptDispatch

import PromptDispatch.Invocation.Environment
import PromptDispatch.Invocation.Launch
import PromptDispatch.Machine.Shell.Run

/-!
# A machine on which commands run

`Machine.course` says how a requested process goes: what it writes, and when and how it ends.
`Machine.surroundings` watches such a course through a context: the parent looks at the child at the
times at which something happens, up to the first one that ends the wait.
-/

namespace PromptDispatch

structure Machine where
  files : Machine.Files := .standard
  /-- the variables of the parent -/
  vars : List RawVariable := [.ofText ("PATH", "/usr/local/bin:/usr/bin:/bin")]

namespace Machine

/-! ## courses of processes -/

/-- how a process goes that nobody stops -/
structure Course where
  output : List UInt8
  /-- how long it runs, in milliseconds; none if it goes on for ever -/
  duration : Option Nat
  status : WaitStatus

/-- the longest chain of steps that a script is given before it is taken to go on for ever -/
def patience : Nat := 6000

/-- the directories that are searched where there is no search path -/
def usualSearchPath : String := "/bin:/usr/bin"

/-- the course of a program -/
def courseOf (files : Files) (program : String) (args : List String)
    (vars : List (String × String)) : Course :=
  let (flow, s) := (Shell.runProgram patience program args vars).run { files }
  let output := (s.buffers[0]?).getD []
  match flow with
  | .error (.killed n) => { output, duration := some s.time, status := .ofSignal n }
  | .error .stuck => { output, duration := none, status := .ofSignal 9 }
  | _ => { output, duration := some s.time, status := .ofExit s.status }

/-- a variable as the programs of a machine read it -/
def lossyText (v : RawVariable) : String × String :=
  (String.ofList (Text.decodeLossy v.name), String.ofList (Text.decodeLossy v.value))

/-- the course of a requested process, or why there is none -/
def course (m : Machine) (r : SpawnRequest) : Except SystemFault Course :=
  if r.hasNul then .error .nulByte
  else
    let vars := (childEnvironment m.vars r.environment).map lossyText
    (m.files.programOf ((vars.lookup "PATH").getD usualSearchPath) r.program).map fun name =>
      courseOf m.files name r.arguments vars

/-! ## watching a course -/

/-- a context and when it is cancelled, counted in milliseconds from the start -/
structure Watch where
  context : Context
  flags : Flags := {}
  now : Instant := default
  cancelledAfter : Option Nat := none

namespace Watch

/-- the watch of a context that nothing stops -/
def idle : Watch := { context := .background ⟨0⟩ }

/-- a span of milliseconds -/
def span (ms : Nat) : Timeout := .ofParts (ms / 1000) (ms % 1000 * 1000000)

/-- the context's reason to stop at a time after the start -/
def interruption (w : Watch) (ms : Nat) : Option Interruption :=
  let flags :=
    match w.cancelledAfter with
    | some t => if t ≤ ms then w.flags.cancel w.context.token else w.flags
    | none => w.flags
  w.context.interruption flags ((w.now.after? (span ms)).getD w.now)

/-- the first time at which the deadline has passed -/
def deadline? (w : Watch) : Option Nat :=
  w.context.deadline.map fun (i, _) => ((i.total - w.now.total + 999999) / 1000000).toNat

/-- the child at a time after the start -/
def poll (w : Watch) (c : Course) (ms : Nat) : Poll where
  child :=
    match c.duration with
    | some d => if d ≤ ms then .exited c.status else .running
    | none => .running
  interruption := w.interruption ms

/-- the times at which something happens, in ascending order -/
def times (w : Watch) (c : Course) : List Nat :=
  ([c.duration, w.cancelledAfter, w.deadline?].filterMap id).mergeSort

/-- the course as the parent sees it; a child that would never end is killed when nothing more can
happen -/
def childRun (w : Watch) (c : Course) : ChildRun where
  polls := (w.times c).map (w.poll c) ++ [{ child := .exited c.status }]
  captured := .ok c.output
  ends := ⟨{ child := .exited c.status }, by simp, by simp [Poll.isQuiet]⟩

end Watch

/-- the outside of a launch on a machine -/
def surroundings (m : Machine) (w : Watch) : Surroundings where
  interruption := w.interruption 0
  spawn r := (m.course r).map w.childRun

end Machine

end PromptDispatch

import PromptDispatch.Invocation.Environment
import PromptDispatch.Invocation.Launch

/-!
# The program and its outside

An `Outside` is all that the program can ask: files, the input, the variables, the processes that
can be started, and what the parser of records says of a text.  A `Job` is a part of the program;
what it has written and done so far stays, also where it fails.
-/

namespace PromptDispatch

namespace Program

/-! ## asking -/

/-- the signals that cancel a dispatch -/
inductive StopSignal where
  | interrupt
  | terminate
  deriving DecidableEq, Repr

def StopSignal.name : StopSignal → String
  | .interrupt => "SIGINT"
  | .terminate => "SIGTERM"

structure Outside where
  pathExists : String → Bool
  /-- the text of a file -/
  readFile : String → Except SystemFault String
  /-- the text of the whole input -/
  input : Except SystemFault String
  vars : List RawVariable
  /-- the answer to a handler for a signal, a refusal in the operating system's own words -/
  handler : StopSignal → Except String Unit := fun _ => .ok ()
  /-- what a launch meets under a timeout -/
  surroundings : Timeout → Surroundings
  /-- the words that the parser of records has for a text that is none -/
  recordReason : String → Json.RecordFault → String := fun _ fault => fault.message

/-- why the program fails -/
inductive Fault where
  | failure (failure : Failure)
  | fileUnreadable (path : String) (fault : SystemFault)
  | inputUnreadable (fault : SystemFault)
  | handlerRefused (signal : StopSignal) (reason : String)
  deriving DecidableEq, Repr

namespace Fault

/-- what is not a failure of a dispatch is the caller's mistake -/
def exitCode : Fault → Nat
  | failure f => f.exitCode
  | _ => 1

/-- the texts of the causes behind a failure, the nearest one first -/
def causes (o : Outside) : Failure → List String
  | .execution _ _ fault _ =>
    fault.message ::
      match fault with
      | .spawn e | .wait e | .capture e => [e.message]
      | .exit _ => []
  | .decode _ text fault => [o.recordReason text fault]
  | _ => []

def message (o : Outside) : Fault → String
  | failure f => ": ".intercalate (f.message :: causes o f)
  | fileUnreadable path fault => s!"failed to read '{path}': {fault.message}"
  | inputUnreadable fault => s!"failed to read stdin: {fault.message}"
  | handlerRefused signal reason => s!"failed to install {signal.name} handler: {reason}"

end Fault

/-! ## doing -/

/-- what has been done so far -/
structure Progress where
  written : String := ""
  effects : List Effect := []
  deriving DecidableEq, Repr

abbrev Job (α : Type) := ExceptT Fault (StateM Progress) α

namespace Job

def write (s : String) : Job Unit := modify fun p => { p with written := p.written ++ s }

def writeLine (s : String) : Job Unit := write (s ++ "\n")

/-- goes on with a result, or fails with its failure -/
def ofResult {α : Type} : Except Failure α → Job α
  | .ok a => pure a
  | .error e => throw (.failure e)

/-- the effects of a dispatch and then its result -/
def perform {α : Type} (t : Traced (Except Failure α)) : Job α := do
  modify fun p => { p with effects := p.effects ++ t.2 }
  ofResult t.1

def readInput (o : Outside) : Job String :=
  match o.input with
  | .ok s => pure s
  | .error e => throw (.inputUnreadable e)

/-- the text of a file, or of the input where none is named -/
def readDocument (o : Outside) : Option String → Job String
  | none => readInput o
  | some path =>
    match o.readFile path with
    | .ok s => pure s
    | .error e => throw (.fileUnreadable path e)

/-- a prompt as it was given; a hyphen stands for the input -/
def readPrompt (o : Outside) (word : String) : Job String :=
  if word = "-" then readInput o else pure word

def installHandler (o : Outside) (signal : StopSignal) : Job Unit :=
  match o.handler signal with
  | .ok () => pure ()
  | .error reason => throw (.handlerRefused signal reason)

/-- takes over the signals that cancel a dispatch -/
def installHandlers (o : Outside) : Job Unit := do
  installHandler o .interrupt
  installHandler o .terminate

end Job

end Program

end PromptDispatch

import PromptDispatch.Invocation.Child
import PromptDispatch.Text.Utf8

/-!
# One launch of a process

`Launch.run` takes one request from the look at the context before it up to the output of the child.
What the outside answers on the way is a `Surroundings`; what is done to the outside is the list of
effects beside the result.
-/

namespace PromptDispatch

/-- the answers of the outside to one launch -/
structure Surroundings where
  /-- the context's reason to stop before anything is started -/
  interruption : Option Interruption := none
  /-- whether there is a file for the output -/
  captureFile : Except SystemFault Unit := .ok ()
  spawn : SpawnRequest → Except SystemFault ChildRun

/-- a result and what has been done to the outside, in order -/
abbrev Traced (α : Type) := α × List Effect

structure Launch where
  /-- the agent, or the command itself where there is none -/
  label : String
  /-- the command line without the prompt -/
  display : String
  request : SpawnRequest
  deriving DecidableEq, Repr

namespace Launch

def failed (l : Launch) (fault : ProcessFault) (output : String) : Failure :=
  .execution l.label l.display fault output

def interrupted (l : Launch) : Interruption → Failure
  | .cancelled => .cancelled l.label l.display
  | .timedOut timeout => .timedOut l.label l.display timeout

/-- captured bytes as text -/
def outputText (bytes : List UInt8) : String := String.ofList (Text.decodeLossy bytes)

/-- what comes of a child that has exited -/
def exited (l : Launch) (status : WaitStatus) (captured : Except SystemFault (List UInt8)) :
    Except Failure String :=
  match captured with
  | .error fault => .error (l.failed (.capture fault) "")
  | .ok bytes =>
    if status.success then .ok (outputText bytes)
    else .error (l.failed (.exit status) (outputText bytes))

/-- what comes of a child whose state was lost: its output as far as it can be read -/
def lost (l : Launch) (fault : SystemFault) (captured : Except SystemFault (List UInt8)) :
    Traced (Except Failure String) :=
  match captured with
  | .ok bytes => (.error (l.failed (.wait fault) (outputText bytes)), [.readCapture])
  | .error e =>
    (.error (l.failed (.wait fault) ""), [.readCapture, .log (.outputLost l.label e)])

/-- what comes of a child -/
def finish (l : Launch) (child : ChildRun) : Traced (Except Failure String) :=
  let (stop, done) := child.wait
  match stop with
  | .exited status => (l.exited status child.captured, done ++ [.readCapture])
  | .interrupted reason =>
    (.error (l.interrupted reason), done ++ [.log (.terminated l.label reason)])
  | .lost fault =>
    let (result, read) := l.lost fault child.captured
    (result, done ++ read)

/-- asks for a child and waits for it -/
def start (l : Launch) (s : Surroundings) : Traced (Except Failure String) :=
  let announced : Effect := .log (.spawning l.label l.display)
  match s.spawn l.request with
  | .error fault =>
    (.error (l.failed (.spawn fault) ""), [announced, .spawn l.request false])
  | .ok child =>
    let (result, done) := l.finish child
    (result, announced :: .spawn l.request true :: done)

/-- the output of a child that ends well -/
def run (l : Launch) (s : Surroundings) : Traced (Except Failure String) :=
  match s.interruption with
  | some reason => (.error (l.interrupted reason), [])
  | none =>
    match s.captureFile with
    | .error fault => (.error (l.failed (.capture fault) ""), [.openCapture])
    | .ok () =>
      let (result, done) := l.start s
      (result, .openCapture :: done)

end Launch

end PromptDispatch

import PromptDispatch.Invocation.Child
import PromptDispatch.Invocation.Environment
import PromptDispatch.Text.Quoted

/-!
# The log

Events become lines if the filter lets them through.  A filter is a list of directives, each for the
targets that begin with a text; the directive with the longest such text decides.
-/

namespace PromptDispatch.Program

/-! ## levels -/

/-- how much is logged; each level has all that the ones before it have -/
inductive LogLevel where
  | off
  | error
  | warn
  | info
  | debug
  | trace
  deriving DecidableEq, Repr

namespace LogLevel

def all : List LogLevel := [off, error, warn, info, debug, trace]

def name : LogLevel → String
  | off => "off"
  | error => "error"
  | warn => "warn"
  | info => "info"
  | debug => "debug"
  | trace => "trace"

def rank : LogLevel → Nat
  | off => 0
  | error => 1
  | warn => 2
  | info => 3
  | debug => 4
  | trace => 5

/-- by the name in any case, or by the rank -/
def ofName? (s : String) : Option LogLevel :=
  all.find? fun l => l.name = String.ofList (s.toList.map Char.toLower) ∨ toString l.rank = s

end LogLevel

/-! ## filters -/

/-- a level for the targets that begin with a text -/
structure LogDirective where
  target : String := ""
  level : LogLevel
  deriving DecidableEq, Repr

/-- a name that a directive can have for its targets -/
def isTargetName (s : List Char) : Bool :=
  !s.isEmpty && s.all fun c => c.isAlphanum || c = '_' || c = ':' || c = '-'

namespace LogDirective

/-- a level, a target with a level, or a target of which everything is logged -/
def ofText? (s : String) : Option LogDirective :=
  match LogLevel.ofName? s with
  | some level => some { level }
  | none =>
    let target := s.toList.takeWhile (· ≠ '=')
    if !isTargetName target then none
    else
      match s.toList.dropWhile (· ≠ '=') with
      | [] => some { target := s, level := .trace }
      | _ :: r =>
        (LogLevel.ofName? (String.ofList r)).map fun level =>
          { target := String.ofList target, level }

def covers (d : LogDirective) (target : String) : Bool := target.startsWith d.target

/-- the directive with the longer text; the later one of two for the same text -/
def finer (a b : LogDirective) : LogDirective :=
  if b.target.length < a.target.length then a else b

end LogDirective

structure LogFilter where
  directives : List LogDirective
  deriving DecidableEq, Repr

namespace LogFilter

/-- directives with commas between them; only errors where there are none -/
def ofText? (s : String) : Option LogFilter :=
  let parts := (s.toList.splitOn ',').filter fun p => !p.isEmpty
  (parts.mapM fun p => LogDirective.ofText? (String.ofList p)).map fun ds =>
    { directives := if ds.isEmpty then [{ level := .error }] else ds }

def lets (f : LogFilter) (target : String) (level : LogLevel) : Bool :=
  match f.directives.filter (·.covers target) with
  | [] => false
  | d :: ds => level.rank ≤ (ds.foldl LogDirective.finer d).level.rank

/-- the names of the variables that can hold a filter, the first one first -/
def variableNames : List String := ["AGENTSHOT_LOG", "RUST_LOG"]

/-- the filter of the first variable that holds one, or else the usual one -/
def choose (vars : List (String × String)) (verbose : Bool) : LogFilter :=
  let given := variableNames.filterMap fun n => (vars.lookup n).bind ofText?
  given.head?.getD { directives := [{ level := if verbose then .debug else .warn }] }

end LogFilter

/-! ## lines -/

/-- the target of every event -/
def logTarget : String := "agentshot::agent::dispatch::process"

def quoted (s : String) : String := String.ofList (Text.quoted s.toList)

def reasonText : Interruption → String
  | .cancelled => "Cancelled"
  | .timedOut t => s!"TimedOut({t.unitText})"

def eventText : Event → String
  | .spawning agent command =>
    s!"spawning agent process agent={quoted agent} command={quoted command}"
  | .terminated agent reason => s!"terminated agent process agent={quoted agent} " ++
      s!"reason={reasonText reason}"
  | .outputLost agent fault => s!"failed to read captured output agent={quoted agent} " ++
      s!"error={fault.message}"

/-- the lines of the events among effects; every event has the level of debugging -/
def logLines (f : LogFilter) (effects : List Effect) : List String :=
  if f.lets logTarget .debug then
    effects.filterMap fun e =>
      match e with
      | .log event => some s!"DEBUG {logTarget}: {eventText event}"
      | _ => none
  else []

end PromptDispatch.Program

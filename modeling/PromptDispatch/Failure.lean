import PromptDispatch.Agent.Kind
import PromptDispatch.Failure.System
import PromptDispatch.Json.Record
import PromptDispatch.Process.Status
import PromptDispatch.Schema.Problem
import PromptDispatch.Timeout

/-!
# Failures

Every way in which a dispatch can fail is a cause; `Failure.message` is the only place that puts one
into words, and `Failure.exitCode` the only one that gives it a number.
-/

namespace PromptDispatch

/-! ## causes -/

/-- why a command line could not be made for an agent -/
inductive ResolutionFault where
  | unknownAgent (name : String)
  /-- the command has a quote that is not closed -/
  | openQuote (command agent : String)
  /-- the command has no words -/
  | noWords (command agent : String)
  /-- the program is a path at which there is nothing -/
  | missingProgram (agent path : String)
  /-- a resolver gave no words -/
  | noCommand (agent : String)
  /-- neither a profile nor a built-in agent has the name -/
  | notSelectable (name : String) (available : List String)
  /-- a resolver's own reason -/
  | other (text : String)
  deriving DecidableEq, Repr

/-- how a registry was misused -/
inductive SchemaFault where
  | blankLabel
  | emptyFieldName (label : String)
  | repeatedField (label field : String)
  | alreadyRegistered (label : String)
  | notRegistered (label : String)
  /-- as `notRegistered`, with the labels that there are -/
  | notAmong (label : String) (known : List String)
  | alreadyInstalled
  | other (text : String)
  deriving DecidableEq, Repr

/-- what is wrong with a configuration -/
inductive ConfigFault where
  /-- the text is not YAML, or not of the shape of a configuration; why is left to the parser -/
  | unreadable
  | fileNotFound (path : String)
  | fileUnreadable (path : String) (fault : SystemFault)
  | zeroDefaultTimeout
  | emptyAgentName
  | unknownKind (agent kind : String)
  | blankCommand (agent : String)
  | zeroTimeout (agent : String)
  | schemas (fault : SchemaFault)
  /-- a timeout of zero on the command line -/
  | zeroTimeoutOption
  | other (text : String)
  deriving DecidableEq, Repr

/-- what went wrong with a process -/
inductive ProcessFault where
  | spawn (fault : SystemFault)
  | exit (status : WaitStatus)
  | wait (fault : SystemFault)
  | capture (fault : SystemFault)
  deriving DecidableEq, Repr

inductive Failure where
  /-- a text that must not be empty is empty -/
  | validation (field : String)
  | resolution (fault : ResolutionFault)
  | execution (agent command : String) (fault : ProcessFault) (output : String)
  | cancelled (agent command : String)
  | timedOut (agent command : String) (timeout : Timeout)
  /-- a line of a record stream is no record -/
  | decode (line : Nat) (text : String) (fault : Json.RecordFault)
  | schema (fault : SchemaFault)
  /-- a result does not match the schema under a label -/
  | violation (label : String) (problems : List Problem)
  | config (fault : ConfigFault)
  deriving DecidableEq, Repr

/-! ## words -/

def ResolutionFault.message : ResolutionFault → String
  | .unknownAgent name => s!"unknown agent '{name}'\nKnown agents: {AgentKind.allNames}"
  | .openQuote command agent =>
    s!"failed to parse command '{command}' for agent '{agent}': missing closing quote\n" ++
      "Fix: check for unmatched quotes or invalid escape sequences."
  | .noWords command agent => s!"command for agent '{agent}' is empty after parsing: '{command}'"
  | .missingProgram agent path =>
    s!"command for agent '{agent}' points to '{path}', which does not exist"
  | .noCommand agent => s!"resolver returned no command for agent '{agent}'"
  | .notSelectable name available =>
    s!"unknown agent '{name}'\nAvailable agents: " ++ ", ".intercalate available
  | .other text => text

/-- labels with commas between them, or a word for none -/
def labelList (labels : List String) : String :=
  if labels.isEmpty then "(none)" else ", ".intercalate labels

/-- without the name of the registry in front -/
def SchemaFault.reason : SchemaFault → String
  | .blankLabel => "schema label cannot be empty"
  | .emptyFieldName label => s!"schema '{label}' has a field with an empty name"
  | .repeatedField label field => s!"schema '{label}' declares field '{field}' more than once"
  | .alreadyRegistered label => s!"schema '{label}' is already registered"
  | .notRegistered label => s!"no schema registered under '{label}'"
  | .notAmong label known =>
    s!"no schema registered under '{label}' (registered: {labelList known})"
  | .alreadyInstalled => "a schema registry is already installed"
  | .other text => text

def SchemaFault.message (f : SchemaFault) : String := "schema registry: " ++ f.reason

def ConfigFault.message : ConfigFault → String
  | .unreadable => "failed to parse config YAML"
  | .fileNotFound path => s!"config file '{path}' not found"
  | .fileUnreadable path fault => s!"failed to read config file '{path}': {fault.message}"
  | .zeroDefaultTimeout =>
    "config validation failed: defaults.timeout_seconds must be greater than 0"
  | .emptyAgentName => "config validation failed: agent identifier cannot be empty"
  | .unknownKind agent kind =>
    s!"config validation failed: agent '{agent}' has unknown kind '{kind}' " ++
      s!"(expected one of: {AgentKind.allNames})"
  | .blankCommand agent => s!"config validation failed: agent '{agent}' has empty command"
  | .zeroTimeout agent => s!"config validation failed: agent '{agent}' has timeout_seconds of 0"
  | .schemas fault => s!"config validation failed: {fault.message}"
  | .zeroTimeoutOption => "--timeout must be greater than 0"
  | .other text => text

def ProcessFault.message : ProcessFault → String
  | .spawn fault => s!"failed to spawn process: {fault.message}"
  | .exit status => s!"process exited with {status.text}"
  | .wait fault => s!"failed to wait for process: {fault.message}"
  | .capture fault => s!"failed to capture process output: {fault.message}"

namespace Failure

def message : Failure → String
  | .validation field => s!"{field} must not be empty"
  | .resolution fault => fault.message
  | .execution agent command fault output =>
    s!"agent '{agent}' failed running `{command}`: {fault.message}\noutput:\n{output}"
  | .cancelled agent command => s!"agent '{agent}' was cancelled while running `{command}`"
  | .timedOut agent command timeout =>
    s!"agent '{agent}' timed out after {timeout.secondsText}s running `{command}`"
  | .decode line text _ => s!"could not parse stream record on line {line}: {text}"
  | .schema fault => fault.message
  | .violation label problems =>
    s!"output does not match schema '{label}': " ++ "; ".intercalate (problems.map Problem.message)
  | .config fault => fault.message

/-! ## numbers -/

/-- 1 for the caller's mistake, 2 for a result of the wrong shape, 3 for a process that failed and 4
for one that was stopped -/
def exitCode : Failure → Nat
  | .validation _ | .resolution _ | .config _ | .schema _ => 1
  | .violation _ _ | .decode _ _ _ => 2
  | .execution _ _ _ _ => 3
  | .cancelled _ _ | .timedOut _ _ _ => 4

/-- the failure came from a cancelled or expired context -/
def isInterrupted : Failure → Bool
  | .cancelled _ _ | .timedOut _ _ _ => true
  | _ => false

end Failure

end PromptDispatch

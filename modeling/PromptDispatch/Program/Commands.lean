import PromptDispatch.Agent.Records
import PromptDispatch.Arguments.Request
import PromptDispatch.Config.Selection
import PromptDispatch.Invocation.Dispatch
import PromptDispatch.Program.Outside
import PromptDispatch.Schema.JsonSchema

/-!
# Commands of the program

Each command is a job that gets the configuration and the registry made from it.  A command that
starts a process looks at everything else first: the agent, the schema, the timeout, the prompt and
the handlers of signals.
-/

namespace PromptDispatch.Program

open Job

/-! ## configuration -/

/-- the configuration that is read where none is named -/
def configFileName : String := "agentshot.yaml"

/-- the configuration in a file; none if there is no file -/
def loadConfig? (o : Outside) (path : String) : Except Failure (Option Config) :=
  if !o.pathExists path then .ok none
  else
    match o.readFile path with
    | .error e => .error (.config (.fileUnreadable path e))
    | .ok text => (Config.ofYaml text).map some

/-- the named configuration, which must be there, or else the usual one -/
def loadConfig (o : Outside) : Option String → Except Failure Config
  | some path =>
    (loadConfig? o path).bind fun c =>
      match c with
      | some c => .ok c
      | none => .error (.config (.fileNotFound path))
  | none => (loadConfig? o configFileName).map fun c => c.getD {}

/-- the registry of a configuration, installed in the process -/
def installRegistry (c : Config) : Except Failure Registry :=
  (c.registry.bind fun r => (Slot.empty.install r).2).mapError .schema

/-! ## starting processes -/

/-- the descriptor under a label, or a failure that names the labels -/
def requireSchema (r : Registry) (label : String) : Except Failure Descriptor :=
  match r.lookup label with
  | some d => .ok d
  | none => .error (.schema (.notAmong label r.labels))

/-- the timeout of the command line, which must not be zero, or else the usual one -/
def chooseTimeout (given : Option UInt64) (usual : Timeout) : Except Failure Timeout :=
  match given with
  | none => .ok usual
  | some n => if n = 0 then .error (.config .zeroTimeoutOption) else .ok (.ofSeconds n)

/-- the output itself, or the value in it by the schema that it has to match -/
def printResult (schema : Option Descriptor) (output : String) : Job Unit :=
  match schema with
  | none => write output
  | some d => do
    let v ← ofResult (d.validateOutput output.toList)
    writeLine v.pretty

def run (o : Outside) (c : Config) (r : Registry) (q : RunRequest) : Job Unit := do
  let selection ← ofResult (c.select q.agent)
  let schema ← ofResult (q.schema.mapM (requireSchema r))
  let timeout ← ofResult (chooseTimeout q.timeout selection.timeout)
  let environment := selection.environment.overlay (Dict.ofList q.settings)
  let command := q.command.getD selection.command
  let prompt ← readPrompt o q.prompt
  installHandlers o
  let output ← perform
    (execute (builtinResolver o.pathExists) (o.surroundings timeout) o.vars
      selection.kind.name command prompt environment)
  printResult schema output

def exec (o : Outside) (c : Config) (q : ExecRequest) : Job Unit := do
  let timeout ←
    ofResult (chooseTimeout (some (q.timeout.getD c.defaults.timeoutSeconds)) default)
  let prompt ← readPrompt o q.prompt
  installHandlers o
  let output ← perform
    (executeCommand (o.surroundings timeout) o.vars q.command prompt (Dict.ofList q.settings))
  write output

/-! ## listing agents -/

/-- a text with blanks after it up to a width -/
def padded (width : Nat) (s : String) : String :=
  s ++ String.ofList (List.replicate (width - s.length) ' ')

/-- at most so many characters, the last three of them dots where something is left out -/
def truncated (width : Nat) (s : String) : String :=
  if s.length ≤ width then s else String.ofList (s.toList.take (width - 3)) ++ "..."

def writeBuiltin (k : AgentKind) : Job Unit :=
  let words := " ".intercalate (k.binary :: k.flags .oneShot)
  writeLine s!"  {padded 10 k.name} {words} {promptPlaceholder}"

def writeProfile (c : Config) (name : String) (p : Config.Profile) : Job Unit := do
  let s ← ofResult (c.select name)
  writeLine s!"  {name}"
  writeLine s!"    Kind:        {s.kind.name}"
  writeLine s!"    Command:     {truncated 50 s.command}"
  writeLine s!"    Timeout:     {s.timeout.seconds}s"
  if !p.environment.isEmpty then
    writeLine ("    Environment: " ++ ", ".intercalate p.environment.keys)

def writeProfiles (c : Config) : List (String × Config.Profile) → Job Unit
  | [] => pure ()
  | (name, p) :: r => do
    writeProfile c name p
    writeProfiles c r

def agents (c : Config) : Job Unit := do
  writeLine "Built-in agents:"
  writeLine ""
  AgentKind.all.forM writeBuiltin
  if !c.agents.isEmpty then
    writeLine ""
    writeLine s!"Configured agents ({c.agents.size}):"
    writeLine ""
    writeProfiles c c.agents.entries

/-! ## schemas and records -/

def writeDescriptor (d : Descriptor) : Job Unit :=
  let required := d.requiredFields.length
  writeLine s!"  {d.label} ({d.fields.length} fields, {required} required)"

def listSchemas (r : Registry) : Job Unit :=
  if r.isEmpty then writeLine "No schemas registered."
  else do
    writeLine s!"Registered schemas ({r.size}):"
    r.descriptors.forM writeDescriptor

def showSchema (r : Registry) (label : String) : Job Unit :=
  match r.lookup label with
  | none => throw (.failure (.schema (.notRegistered label)))
  | some d => writeLine d.toJsonSchema.pretty

def validateSchema (o : Outside) (r : Registry) (label : String) (file : Option String) :
    Job Unit := do
  let raw ← readDocument o file
  let v ← ofResult (r.validate label raw.toList)
  writeLine v.pretty

def decodeStream (o : Outside) (file : Option String) : Job Unit := do
  let raw ← readDocument o file
  let count ← ofResult (decodeRecords raw.toList)
  writeLine s!"Decoded {count} records."

/-! ## all commands -/

def perform (o : Outside) (c : Config) (r : Registry) : Action → Job Unit
  | .run q => run o c r q
  | .exec q => exec o c q
  | .agents => agents c
  | .listSchemas => listSchemas r
  | .showSchema label => showSchema r label
  | .validateSchema label file => validateSchema o r label file
  | .decodeStream file => decodeStream o file

end PromptDispatch.Program

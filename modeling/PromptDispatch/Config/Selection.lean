import PromptDispatch.Config.Reader
import PromptDispatch.Schema.Registry

/-!
# Valid configurations and what is selected from them

`Config.validate` finds the first thing wrong with a configuration, the agents in the order of their
names and then the schemas.  `Config.select` gives what one agent is run with.
-/

namespace PromptDispatch

namespace Config

/-! ## schemas -/

def descriptors (c : Config) : List Descriptor :=
  c.schemas.entries.map fun e => { label := e.1, fields := e.2.fields }

def registry (c : Config) : Except SchemaFault Registry := Registry.ofDescriptors c.descriptors

/-! ## validity -/

/-- the built-in agent of a profile -/
def Profile.agentKind (p : Profile) (name : String) : Except ConfigFault AgentKind :=
  let kind := p.kind.getD name
  match AgentKind.ofName? kind with
  | some k => .ok k
  | none => .error (.unknownKind name kind)

/-- what is wrong with a profile -/
def Profile.check (p : Profile) (name : String) : Except ConfigFault Unit :=
  if name = "" then .error .emptyAgentName
  else
    (p.agentKind name).bind fun _ =>
      if (p.command.map fun s => Text.isBlankText s.toList).getD false then
        .error (.blankCommand name)
      else if p.timeoutSeconds = some 0 then .error (.zeroTimeout name)
      else .ok ()

def checkAgents : List (String × Profile) → Except ConfigFault Unit
  | [] => .ok ()
  | (name, p) :: r => (p.check name).bind fun _ => checkAgents r

/-- the first thing that is wrong -/
def check (c : Config) : Except ConfigFault Unit :=
  if c.defaults.timeoutSeconds = 0 then .error .zeroDefaultTimeout
  else
    (checkAgents c.agents.entries).bind fun _ =>
      match c.registry with
      | .ok _ => .ok ()
      | .error fault => .error (.schemas fault)

def validate (c : Config) : Except Failure Unit := c.check.mapError .config

/-- the valid configuration that a YAML text declares -/
def ofYaml (s : String) : Except Failure Config :=
  match read? s with
  | none => .error (.config .unreadable)
  | some c => c.validate.map fun _ => c

/-! ## selection -/

end Config

/-- what one agent is run with -/
structure Selection where
  kind : AgentKind
  command : String
  timeout : Timeout
  environment : Dict String := .empty

namespace Config

/-- the names of the built-in agents and of the profiles, each once and in ascending order -/
def availableAgents (c : Config) : List String :=
  (c.agents.entries.foldl (fun d e => d.insert e.1 ())
    (Dict.ofList (AgentKind.all.map fun k => (k.name, ())))).keys

/-- the profile of a name, or else the built-in agent -/
def select (c : Config) (name : String) : Except Failure Selection :=
  match c.agents.get? name with
  | some p =>
    ((p.agentKind name).mapError .config).map fun kind =>
      { kind
        command := p.command.getD kind.binary
        timeout := .ofSeconds (p.timeoutSeconds.getD c.defaults.timeoutSeconds)
        environment := p.environment }
  | none =>
    match AgentKind.ofName? name with
    | some kind =>
      .ok { kind, command := kind.binary, timeout := .ofSeconds c.defaults.timeoutSeconds }
    | none => .error (.resolution (.notSelectable name c.availableAgents))

end Config

end PromptDispatch

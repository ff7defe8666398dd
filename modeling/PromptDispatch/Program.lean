import PromptDispatch.Program.Commands
import PromptDispatch.Program.Log

/-!
# One run of the program

`Program.dispatch` reads the configuration, installs its registry and carries out the command;
`Program.outcome` is what is seen of it: what it writes, the lines of its log and its exit code.
`Program.reply` is what a command line gets, carried out or not.
-/

namespace PromptDispatch.Program

/-! ## requests -/

/-- the whole of what a request asks for -/
def dispatch (o : Outside) (q : Request) : Job Unit := do
  let config ← Job.ofResult (loadConfig o q.config)
  let registry ← Job.ofResult (installRegistry config)
  perform o config registry q.action

structure Outcome where
  written : String
  effects : List Effect
  log : List String
  fault : Option Fault
  /-- what is said of the fault -/
  complaint : String
  deriving Repr

def Outcome.exitCode (r : Outcome) : Nat := (r.fault.map Fault.exitCode).getD 0

def outcome (o : Outside) (q : Request) : Outcome :=
  let (result, progress) := (dispatch o q).run {}
  { written := progress.written
    effects := progress.effects
    log := logLines (.choose (snapshot o.vars) q.verbose) progress.effects
    fault :=
      match result with
      | .ok () => none
      | .error fault => some fault
    complaint :=
      match result with
      | .ok () => ""
      | .error fault => s!"Error: {fault.message o}\n" }

/-! ## command lines -/

def usageText : String :=
  "Usage: agentshot [--config FILE] [--verbose] COMMAND\n\n" ++
    "Commands: run AGENT PROMPT, exec COMMAND PROMPT, agents, schema list,\n" ++
    "  schema show LABEL, schema validate LABEL [FILE], decode-stream [FILE]\n"

def versionText : String := "agentshot 0.1.0\n"

/-- what a command line gets: a text for each of the two outputs, and an exit code -/
structure Reply where
  written : String := ""
  said : String := ""
  exitCode : Nat

def Outcome.reply (r : Outcome) : Reply :=
  { written := r.written
    said := String.join (r.log.map (· ++ "\n")) ++ r.complaint
    exitCode := r.exitCode }

/-- the reply to a command line that is not carried out -/
def refusal (fault : UsageFault) : Reply :=
  match fault with
  | .help => { written := usageText, exitCode := fault.exitCode }
  | .version => { written := versionText, exitCode := fault.exitCode }
  | .badValue f => { said := s!"error: {f.message}\n", exitCode := fault.exitCode }
  | _ => { said := usageText, exitCode := fault.exitCode }

def reply (o : Outside) (args : List String) : Reply :=
  match Request.ofArguments args with
  | .ok q => (outcome o q).reply
  | .error fault => refusal fault

/-- the exit code of a command line, carried out or not -/
def exitCode (o : Outside) (args : List String) : Nat := (reply o args).exitCode

end PromptDispatch.Program

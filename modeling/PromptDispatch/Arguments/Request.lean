import PromptDispatch.Arguments.Level

/-!
# Requests of a command line

`Request.ofArguments` gives what a command line asks for, or the fault that is noticed first.
-/

namespace PromptDispatch

/-! ## requests -/

structure RunRequest where
  agent : String
  prompt : String
  command : Option String := none
  /-- the variables in the order in which they were given -/
  settings : List (String × String) := []
  timeout : Option UInt64 := none
  /-- the label of the schema that the output has to match -/
  schema : Option String := none
  deriving DecidableEq, Repr

structure ExecRequest where
  command : String
  prompt : String
  settings : List (String × String) := []
  timeout : Option UInt64 := none
  deriving DecidableEq, Repr

inductive Action where
  | run (request : RunRequest)
  | exec (request : ExecRequest)
  | agents
  | listSchemas
  | showSchema (label : String)
  /-- an output in a file, or in the input where there is none -/
  | validateSchema (label : String) (file : Option String)
  | decodeStream (file : Option String)
  deriving DecidableEq, Repr

structure Request where
  config : Option String := none
  verbose : Bool := false
  action : Action
  deriving DecidableEq, Repr

/-! ## reading -/

/-- levels, the innermost first, as the arguments lead to them -/
def readLevels : List String → Level → List Level → Bool → Except UsageFault (List Level)
  | [], l, outer, _ => l.finish.bind fun l => (outer.mapM Level.flush).map (l :: ·)
  | w :: r, l, outer, true => (l.takeWord true w).bind fun l => readLevels r l outer true
  | w :: r, l, outer, false =>
    if l.spec.isGroup && !l.awaits && w = "help" then
      .error (if l.spec.leadsToHelp r then .help else .unknownSubcommand)
    else
      match if l.awaits then none else l.spec.member? w with
      | some m => readLevels r { spec := m } (l :: outer) false
      | none =>
        if w = "--" then readLevels r l outer true
        else (l.take w).bind fun l => readLevels r l outer false

namespace Level

/-- what a level asks for; nothing is asked of a group -/
def action (l : Level) : Action :=
  let word (i : Nat) := (l.word? i).getD ""
  match l.spec with
  | .group _ _ => .agents
  | .leaf _ command _ _ =>
    match command with
    | .run =>
      .run { agent := word 0, prompt := word 1, command := l.text? "command"
             settings := l.settings, timeout := l.seconds? "timeout", schema := l.text? "schema" }
    | .exec =>
      .exec { command := word 0, prompt := word 1, settings := l.settings
              timeout := l.seconds? "timeout" }
    | .agents => .agents
    | .listSchemas => .listSchemas
    | .showSchema => .showSchema (word 0)
    | .validateSchema => .validateSchema (word 0) (l.word? 1)
    | .decodeStream => .decodeStream (l.word? 0)

end Level

/-- the request of arguments; an option of every level is taken from the innermost that has it -/
def Request.ofArguments (args : List String) : Except UsageFault Request :=
  (readLevels args { spec := commandTree } [] false).map fun levels =>
    { config := levels.findSome? (·.text? "config")
      verbose := levels.any (·.isGiven "verbose")
      action := (levels.head?.map Level.action).getD .agents }

end PromptDispatch

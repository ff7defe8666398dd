import PromptDispatch.Arguments.Value

/-!
# Commands and their options

The commands form a tree.  A command has options, words and subcommands; the options that hold for
every command are repeated at every level.
-/

namespace PromptDispatch

/-! ## parts -/

/-- what comes with an option -/
inductive OptionUse where
  | help
  | version
  /-- nothing -/
  | flag
  /-- one value, at most once at a level -/
  | single (form : ValueForm)
  /-- one value each time -/
  | repeated (form : ValueForm)
  deriving DecidableEq, Repr

def OptionUse.takesValue : OptionUse → Bool
  | .single _ | .repeated _ => true
  | _ => false

structure OptionSpec where
  name : String
  letter : Option Char := none
  use : OptionUse
  deriving DecidableEq, Repr

structure WordSpec where
  name : String
  form : ValueForm := .text
  required : Bool := true
  deriving DecidableEq, Repr

/-- the commands that do something -/
inductive CommandName where
  | run
  | exec
  | agents
  | listSchemas
  | showSchema
  | validateSchema
  | decodeStream
  deriving DecidableEq, Repr

/-- a command that does something, or a group of commands -/
inductive CommandSpec where
  | leaf (name : String) (command : CommandName) (options : List OptionSpec) (words : List WordSpec)
  | group (name : String) (members : List CommandSpec)

/-! ## the commands -/

/-- the options at every level -/
def commonOptions : List OptionSpec :=
  [{ name := "config", use := .single .path },
    { name := "verbose", letter := some 'v', use := .flag },
    { name := "help", letter := some 'h', use := .help },
    { name := "version", letter := some 'V', use := .version }]

namespace CommandSpec

def name : CommandSpec → String
  | leaf name _ _ _ | group name _ => name

def options : CommandSpec → List OptionSpec
  | leaf _ _ options _ => options ++ commonOptions
  | group _ _ => commonOptions

def words : CommandSpec → List WordSpec
  | leaf _ _ _ words => words
  | group _ _ => []

def members : CommandSpec → List CommandSpec
  | leaf _ _ _ _ => []
  | group _ members => members

def isGroup : CommandSpec → Bool
  | leaf _ _ _ _ => false
  | group _ _ => true

def member? (c : CommandSpec) (name : String) : Option CommandSpec :=
  c.members.find? fun m => m.name = name

def long? (c : CommandSpec) (name : String) : Option OptionSpec :=
  c.options.find? fun o => o.name = name

def short? (c : CommandSpec) (letter : Char) : Option OptionSpec :=
  c.options.find? fun o => o.letter = some letter

/-- words that lead from a group to one of its commands, or to the help of a group on the way -/
def leadsToHelp : CommandSpec → List String → Bool
  | _, [] => true
  | c, w :: r =>
    if c.isGroup && w = "help" then r.isEmpty
    else
      match c.member? w with
      | some m => m.leadsToHelp r
      | none => false

end CommandSpec

def launchOptions : List OptionSpec :=
  [{ name := "env", letter := some 'e', use := .repeated .setting },
    { name := "timeout", use := .single .seconds }]

def commands : List CommandSpec :=
  [.leaf "run" .run
      (launchOptions ++
        [{ name := "command", use := .single .text }, { name := "schema", use := .single .text }])
      [{ name := "agent" }, { name := "prompt" }],
    .leaf "exec" .exec launchOptions [{ name := "command" }, { name := "prompt" }],
    .leaf "agents" .agents [] [],
    .group "schema"
      [.leaf "list" .listSchemas [] [],
        .leaf "show" .showSchema [] [{ name := "label" }],
        .leaf "validate" .validateSchema []
          [{ name := "label" }, { name := "file", form := .path, required := false }]],
    .leaf "decode-stream" .decodeStream [] [{ name := "file", form := .path, required := false }]]

/-- the group of all commands, which is the program itself -/
def commandTree : CommandSpec := .group "" commands

end PromptDispatch

import PromptDispatch.Agent.Output
import PromptDispatch.Agent.Resolver
import PromptDispatch.Invocation.CommandLine
import PromptDispatch.Invocation.Environment
import PromptDispatch.Invocation.Launch
import PromptDispatch.Text.Blank

/-!
# Dispatch of a prompt

`execute` sends a prompt to an agent whose command line a resolver makes, and cleans the output;
`executeCommand` sends it to a command line as it is.  The prompt is always the last argument, whole
and unchanged.
-/

namespace PromptDispatch

/-- makes the words before the prompt, for an agent, its command and a mode -/
abbrev Resolver := String → String → InvocationMode → Except Failure (List String)

/-- the resolver of the built-in agents -/
def builtinResolver (pathExists : String → Bool) : Resolver := fun agent command mode =>
  (resolve pathExists agent command mode).mapError .resolution

/-- fails where a text is empty -/
def requireText (field text : String) : Except Failure Unit :=
  if text = "" then .error (.validation field) else .ok ()

/-- the launch of a program with words before a prompt -/
def promptLaunch (label program : String) (words : List String) (prompt : String)
    (environment : Option (List (String × String))) : Launch where
  label
  display := renderRedacted (program :: words)
  request := { program, arguments := words ++ [prompt], environment }

/-! ## agents -/

/-- the first of the three texts that is empty -/
def checkAgentTexts (agent command prompt : String) : Except Failure Unit :=
  (requireText "agent name" agent).bind fun _ =>
    (requireText "agent command" command).bind fun _ => requireText "prompt" prompt

/-- sends a prompt to an agent and gives its cleaned output -/
def execute (resolver : Resolver) (s : Surroundings) (ambient : List RawVariable)
    (agent command prompt : String) (overrides : Dict String) : Traced (Except Failure String) :=
  match checkAgentTexts agent command prompt with
  | .error e => (.error e, [])
  | .ok () =>
    let asked : Effect := .resolve agent command .oneShot
    match resolver agent command .oneShot with
    | .error e => (.error e, [asked])
    | .ok [] => (.error (.resolution (.noCommand agent)), [asked])
    | .ok (program :: words) =>
      let launch :=
        promptLaunch agent program words prompt (processEnvironment ambient overrides)
      let (result, done) := launch.run s
      (result.map fun raw => String.ofList (normalize agent raw.toList), asked :: done)

/-! ## commands -/

/-- sends a prompt to a command line and gives its output -/
def executeCommand (s : Surroundings) (ambient : List RawVariable) (command prompt : String)
    (overrides : Dict String) : Traced (Except Failure String) :=
  match (requireText "command" command).bind fun _ => requireText "prompt" prompt with
  | .error e => (.error e, [])
  | .ok () =>
    match Text.words command.toList with
    | [] => (.error (.validation "command"), [])
    | program :: words =>
      (promptLaunch command (String.ofList program) (words.map String.ofList) prompt
        (processEnvironment ambient overrides)).run s

end PromptDispatch

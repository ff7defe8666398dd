import PromptDispatch.Failure
import PromptDispatch.Words.Split

/-!
# From an agent and its command to a command line

`resolve` gives the words that come before the prompt: the words of the command, and the flags of
the agent's kind.  Whether there is something at a path is told by the argument `pathExists`.
-/

namespace PromptDispatch

def looksLikePath (program : String) : Bool := '/' ∈ program.toList

/-- the words of a command and the flags of a built-in agent -/
def resolve (pathExists : String → Bool) (agent command : String) (mode : InvocationMode) :
    Except ResolutionFault (List String) :=
  match AgentKind.ofName? agent with
  | none => .error (.unknownAgent agent)
  | some kind =>
    match Words.split command.toList with
    | none => .error (.openQuote command agent)
    | some [] => .error (.noWords command agent)
    | some (w :: ws) =>
      if looksLikePath (String.ofList w) && !pathExists (String.ofList w) then
        .error (.missingProgram agent (String.ofList w))
      else .ok (String.ofList w :: ws.map String.ofList ++ kind.flags mode)

end PromptDispatch

import PromptDispatch.Agent.Kind
import PromptDispatch.Text.Lines

/-!
# Cleaning of an agent's output

Cleaning never fails.  `dropNotices` drops the lines that are exactly the notice of saved
credentials and keeps all others with their ends; `normalize` cleans by the name of the agent, and
the output of a name that is not built in stays as it is.
-/

namespace PromptDispatch

/-- the line that tells that saved credentials were used -/
def credentialsNotice : String := "Loaded cached credentials."

def isNotice (line : List Char) : Bool := Text.lineBody line == credentialsNotice.toList

/-- the text without its lines that are the notice -/
def dropNotices (s : List Char) : List Char :=
  ((Text.linesWithEnds s).filter fun l => !isNotice l).flatten

def Cleaning.apply (c : Cleaning) (s : List Char) : List Char :=
  match c with
  | .none => s
  | .dropsNotice => dropNotices s

/-- the output of the named agent for its caller -/
def normalize (agent : String) (raw : List Char) : List Char :=
  match AgentKind.ofName? agent with
  | some k => k.cleaning.apply raw
  | none => raw

end PromptDispatch

/-!
# Built-in agents

A kind of agent has an identifier, which is also its binary, the flags that put it into a one-shot
or an interactive run, and the cleaning of its output.
-/

namespace PromptDispatch

inductive AgentKind where
  | claude
  | gemini
  | codex
  deriving DecidableEq, Repr

/-- how an agent is driven -/
inductive InvocationMode where
  /-- one run that takes a prompt and exits -/
  | oneShot
  | interactive
  deriving DecidableEq, Repr

/-- what is done to the output of a successful one-shot run -/
inductive Cleaning where
  | none
  /-- the line that tells of saved credentials is dropped -/
  | dropsNotice
  deriving DecidableEq, Repr

namespace AgentKind

/-- every kind, in the order of display -/
def all : List AgentKind := [claude, gemini, codex]

def name : AgentKind → String
  | claude => "claude"
  | gemini => "gemini"
  | codex => "codex"

def ofName? (s : String) : Option AgentKind := all.find? fun k => k.name = s

theorem ofName?_name (k : AgentKind) : ofName? k.name = some k := by cases k <;> decide

theorem name_of_ofName? {s : String} {k : AgentKind} (h : ofName? s = some k) : k.name = s := by
  simpa using List.find?_some h

/-- the names under which there is a kind -/
theorem isSome_ofName?_iff {s : String} : (ofName? s).isSome = true ↔ ∃ k : AgentKind, k.name = s := by
  constructor
  · intro h
    obtain ⟨k, hk⟩ := Option.isSome_iff_exists.1 h
    exact ⟨k, name_of_ofName? hk⟩
  · rintro ⟨k, rfl⟩
    rw [ofName?_name]
    rfl

def binary (k : AgentKind) : String := k.name

/-- the flags between the binary and the prompt -/
def flags (k : AgentKind) : InvocationMode → List String
  | .interactive => []
  | .oneShot =>
    match k with
    | claude => ["-p"]
    | gemini => ["-p"]
    | codex => ["exec"]

def cleaning : AgentKind → Cleaning
  | claude => .none
  | gemini => .dropsNotice
  | codex => .none

/-- the identifiers with commas between them -/
def allNames : String := ", ".intercalate (all.map name)

end AgentKind

end PromptDispatch

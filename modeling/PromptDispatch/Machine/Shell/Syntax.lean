/-!
# Scripts

A word is a list of parts, which are put together only when the word is expanded; a command is built
from simple commands, which hold words.
-/

namespace PromptDispatch.Machine.Shell

/-- what is done with the value of a parameter -/
inductive ParameterOp where
  | value
  | length
  /-- another text where it is not set; `orEmpty` where it is empty too -/
  | default (orEmpty : Bool)
  | assign (orEmpty : Bool)
  /-- another text where it is set -/
  | alternative (orEmpty : Bool)
  | require (orEmpty : Bool)
  | dropStart (longest : Bool)
  | dropEnd (longest : Bool)
  deriving DecidableEq, Repr

/-- what a redirection does -/
inductive RedirectKind where
  | input | output | append | duplicate
  deriving DecidableEq, Repr

mutual
inductive Part where
  | text (quoted : Bool) (s : String)
  | parameter (quoted : Bool) (name : String) (op : ParameterOp) (word : List Part)
  | output (quoted : Bool) (body : Command)
  | arithmetic (quoted : Bool) (expression : List Part)

inductive Redirect where
  | mk (descriptor : Nat) (kind : RedirectKind) (target : List Part)

inductive Assignment where
  | mk (name : String) (value : List Part)

/-- the patterns of a case and what is done for them -/
inductive Arm where
  | mk (patterns : List (List Part)) (body : Command)

inductive Command where
  | nothing
  | simple (line : Nat) (assignments : List Assignment) (words : List (List Part))
    (redirects : List Redirect)
  | redirected (body : Command) (redirects : List Redirect)
  | subshell (body : Command)
  | pipeline (stages : List Command)
  | negated (body : Command)
  | andThen (first second : Command)
  | orElse (first second : Command)
  | sequence (first second : Command)
  | background (body : Command)
  | branch (condition yes no : Command)
  /-- repeated while the condition ends well, or until it does -/
  | loop (untilTrue : Bool) (condition body : Command)
  /-- once for each word, or for each argument where no words are given -/
  | forEach (name : String) (words : Option (List (List Part))) (body : Command)
  | choose (word : List Part) (arms : List Arm)
  | define (name : String) (body : Command)
end

instance : Inhabited Command := ⟨.nothing⟩

end PromptDispatch.Machine.Shell

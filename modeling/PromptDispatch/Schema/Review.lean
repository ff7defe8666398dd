import PromptDispatch.Json.Typed

/-!
# Reviews

A review is a result with a summary, a score and perhaps notes.  Its members are read in the order
of their names, and members that are absent are reported after that.
-/

namespace PromptDispatch

structure Review where
  summary : String
  score : Int64
  notes : Option String := none
  deriving DecidableEq, Repr

namespace Review

open Json

/-- a member that may be absent -/
def member {α : Type} (members : List (String × Json)) (name : String)
    (read : Json → Except Mismatch α) : Except Mismatch (Option α) :=
  match members.lookup name with
  | none => .ok none
  | some v => (read v).map some

/-- the review that an object's members hold -/
def ofMembers (members : List (String × Json)) : Except Mismatch Review := do
  let notes ← member members "notes" asOptionalText
  let score ← member members "score" asInt64
  let summary ← member members "summary" asText
  match summary, score with
  | none, _ => .error (.missing "summary")
  | _, none => .error (.missing "score")
  | some summary, some score => .ok { summary, score, notes := notes.getD none }

def ofJson : Json → Except Mismatch Review
  | .obj members => ofMembers members
  | v => .error (.type v "struct Review")

end Review

end PromptDispatch

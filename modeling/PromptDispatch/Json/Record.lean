import PromptDispatch.Json.Grammar
import PromptDispatch.Json.Numeral

/-!
# Records without fields

A record is an object with any members, or an array without items.  Its outermost names are read,
and all else in it is skipped: there numbers may be of any size, halves of surrogate pairs may stand
alone, and nesting may be of any depth, as long as the grammar is kept.
-/

namespace PromptDispatch.Json

/-- why a text is not a record -/
inductive RecordFault where
  /-- the text ends where more of it was needed -/
  | ended
  | malformed
  /-- the text begins with a value of another kind -/
  | otherKind
  deriving DecidableEq, Repr

def RecordFault.message : RecordFault → String
  | .ended => "the text ends where more of it was needed"
  | .malformed => "the text is malformed"
  | .otherKind => "the text begins with a value of another kind"

namespace State

/-- the value that the state has read is a scalar -/
def scalar? (st : State) : Option Tree :=
  match st.mode with
  | .root v => if v.isContainer then none else some v
  | _ => none

/-- the fault of a scalar in the place of a record -/
def scalarFault : Tree → RecordFault
  | .numeral lexeme => if (Numeral.number? lexeme).isSome then .otherKind else .malformed
  | .string none => .malformed
  | _ => .otherKind

/-- what a record cannot have: items in its outermost array, or an outermost name that is no text -/
def unfit (st : State) : Bool :=
  match st.frames with
  | [] =>
    match st.mode with
    | .name _ s => !s.sound
    | .colon _ name => name.isNone
    | .string s => !s.sound
    | _ => false
  | f :: k =>
    match (f :: k).getLast? with
    | some (.items _) => true
    | _ => false

/-- the fault of a text that ends in this state -/
def endFault (st : State) : RecordFault :=
  match st.mode, st.frames with
  | .numeral p _, _ :: _ => if p.complete then .ended else .malformed
  | _, _ => .ended

end State

/-- reads the rest of a record on from a state -/
def readRecord (st : State) : List Char → Except RecordFault Unit
  | [] =>
    match st.value? with
    | none => .error st.endFault
    | some t => if t.isContainer then .ok () else .error (State.scalarFault t)
  | c :: r =>
    match st.settle c with
    | none => .error .malformed
    | some st =>
      match st.scalar? with
      | some t => .error (State.scalarFault t)
      | none =>
        match st.take c with
        | none => .error .malformed
        | some st => if st.unfit then .error .malformed else readRecord st r

/-- whether a text is one record -/
def record (s : List Char) : Except RecordFault Unit := readRecord State.start s

end PromptDispatch.Json

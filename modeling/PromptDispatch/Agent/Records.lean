import PromptDispatch.Failure
import PromptDispatch.Text.Blank
import PromptDispatch.Text.Lines

/-!
# Record streams

A stream has one record on each line; lines of blanks alone are passed over.  `decodeRecords` counts
the records and stops at the first line that is none.
-/

namespace PromptDispatch

/-- counts the records on lines of which the first has the number `line` -/
def decodeLines (line : Nat) : List (List Char) → Except Failure Nat
  | [] => .ok 0
  | l :: r =>
    let text := Text.trim l
    if text.isEmpty then decodeLines (line + 1) r
    else
      match Json.record text with
      | .error fault => .error (.decode line (String.ofList text) fault)
      | .ok () => (decodeLines (line + 1) r).map (· + 1)

/-- the number of records in a stream -/
def decodeRecords (raw : List Char) : Except Failure Nat := decodeLines 1 (Text.lines raw)

end PromptDispatch

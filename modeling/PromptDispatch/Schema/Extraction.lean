import PromptDispatch.Json.Reader
import PromptDispatch.Text.Blank
import PromptDispatch.Text.Search

/-!
# The JSON object in a text

`extractJson` looks for one object: the whole text, the first fenced block, and then the stretch
from the first `{` to the last `}`, in this order.
-/

namespace PromptDispatch

/-- the mark that opens and closes a block -/
def fence : List Char := ['`', '`', '`']

/-- the text after the rest of the opening mark's line, up to the next mark -/
def fencedBlock (s : List Char) : Option (List Char) :=
  (Text.cutAt fence s).bind fun (_, afterFence) =>
    match afterFence.dropWhile (· ≠ '\n') with
    | [] => none
    | _ :: body => (Text.cutAt fence body).map Prod.fst

/-- the object that a text holds -/
def extractJson (raw : List Char) : Option Json :=
  let s := Text.trim raw
  (Json.parseObject s).or <|
    ((fencedBlock s).bind fun block => Json.parseObject (Text.trim block)).or <|
      (Text.firstTo '{' '}' s).bind Json.parseObject

end PromptDispatch

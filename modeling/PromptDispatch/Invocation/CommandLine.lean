import PromptDispatch.Words.Quote

/-!
# Command lines without their prompt
-/

namespace PromptDispatch

/-- what stands in the place of a prompt -/
def promptPlaceholder : String := "<prompt>"

/-- the words before a prompt, and the placeholder after them -/
def renderRedacted (argv : List String) : String :=
  let words := Words.join (argv.map String.toList)
  String.ofList (words ++ (if words.isEmpty then [] else [' '])) ++ promptPlaceholder

end PromptDispatch

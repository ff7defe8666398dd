/-!
# Lines of a text

`linesWithEnds` cuts a text after every line feed and loses nothing (`flatten_linesWithEnds`).
`lineBody` drops a line feed and then one carriage return; `lines` drops the carriage return only
where a line feed followed it.
-/

namespace PromptDispatch.Text

/-! ## cutting after each line feed -/

/-- the lines of a text, each with the line feed that ends it -/
def linesWithEnds : List Char → List (List Char)
  | [] => []
  | c :: r =>
    if c = '\n' then [c] :: linesWithEnds r
    else match linesWithEnds r with
      | [] => [[c]]
      | l :: ls => (c :: l) :: ls

theorem linesWithEnds_newline (r : List Char) :
    linesWithEnds ('\n' :: r) = ['\n'] :: linesWithEnds r := by
  simp [linesWithEnds]

theorem flatten_linesWithEnds (s : List Char) : (linesWithEnds s).flatten = s := by
  induction s with
  | nil => rfl
  | cons c r ih =>
    rw [linesWithEnds]
    split
    · simp [ih]
    · split
      · rename_i h
        rw [h] at ih
        simpa using ih
      · rename_i h
        rw [h] at ih
        simpa using ih

/-! ## the ends of a line -/

/-- a line without one final character `c` -/
def dropLast? (c : Char) (l : List Char) : Option (List Char) :=
  if l.getLast? = some c then some l.dropLast else none

/-- a line without its line feed and then without one carriage return -/
def lineBody (l : List Char) : List Char :=
  let l := (dropLast? '\n' l).getD l
  (dropLast? '\r' l).getD l

/-- a line without its line feed, and without a carriage return before that line feed -/
def lineText (l : List Char) : List Char :=
  match dropLast? '\n' l with
  | none => l
  | some l => (dropLast? '\r' l).getD l

/-- the lines of a text without their terminators -/
def lines (s : List Char) : List (List Char) := (linesWithEnds s).map lineText

end PromptDispatch.Text

/-!
# Reading words as a shell does

`split` cuts a text into words.  Blanks, tabs and line feeds end a word; quotes and backslashes keep
characters together; `#` at the start of a word begins a comment.  It has no result only where a
quote is not closed.
-/

namespace PromptDispatch.Words

/-- where a text stands while it is cut -/
inductive Place where
  /-- between words -/
  | outside
  /-- after a backslash between words -/
  | outsideBackslash
  | comment
  | inside
  | backslash
  | single
  | double
  | doubleBackslash
  deriving DecidableEq, Repr

def isSeparator (c : Char) : Bool := c = ' ' || c = '\t' || c = '\n'

/-- cuts the rest of a text; `word` holds the characters of the open word, the last one first -/
def splitFrom (place : Place) (word : List Char) : List Char → Option (List (List Char))
  | [] =>
    match place with
    | .outside | .comment => some []
    | .inside => some [word.reverse]
    | .outsideBackslash | .backslash => some [('\\' :: word).reverse]
    | .single | .double | .doubleBackslash => none
  | c :: r =>
    match place with
    | .outside =>
      if c = '\'' then splitFrom .single [] r
      else if c = '"' then splitFrom .double [] r
      else if c = '\\' then splitFrom .outsideBackslash [] r
      else if isSeparator c then splitFrom .outside [] r
      else if c = '#' then splitFrom .comment [] r
      else splitFrom .inside [c] r
    | .outsideBackslash =>
      if c = '\n' then splitFrom .outside [] r else splitFrom .inside [c] r
    | .comment => if c = '\n' then splitFrom .outside [] r else splitFrom .comment [] r
    | .inside =>
      if c = '\'' then splitFrom .single word r
      else if c = '"' then splitFrom .double word r
      else if c = '\\' then splitFrom .backslash word r
      else if isSeparator c then (splitFrom .outside [] r).map (word.reverse :: ·)
      else splitFrom .inside (c :: word) r
    | .backslash => splitFrom .inside (if c = '\n' then word else c :: word) r
    | .single =>
      if c = '\'' then splitFrom .inside word r else splitFrom .single (c :: word) r
    | .double =>
      if c = '"' then splitFrom .inside word r
      else if c = '\\' then splitFrom .doubleBackslash word r
      else splitFrom .double (c :: word) r
    | .doubleBackslash =>
      if c = '$' || c = '`' || c = '"' || c = '\\' then splitFrom .double (c :: word) r
      else if c = '\n' then splitFrom .double word r
      else splitFrom .double (c :: '\\' :: word) r

/-- the words of a text; none if a quote is not closed -/
def split (s : List Char) : Option (List (List Char)) := splitFrom .outside [] s

end PromptDispatch.Words

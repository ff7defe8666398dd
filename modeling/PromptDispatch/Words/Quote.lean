/-!
# Writing words for a shell

`quote` writes a word so that a shell reads it back as one word; `join` writes words with a blank
between them.
-/

namespace PromptDispatch.Words

/-- a character that keeps a word from being written as it is -/
def isSpecial (c : Char) : Bool :=
  c ∈ ['|', '&', ';', '<', '>', '(', ')', '$', '`', '\\', '"', '\'', ' ', '\t', '\n', '*', '?', '[',
    '#', '~', '=', '%']

/-- the characters of a word between single quotes -/
def quoteInner (w : List Char) : List Char :=
  w.flatMap fun c => if c = '\'' then ['\'', '\\', '\'', '\''] else [c]

theorem quoteInner_cons (c : Char) (w : List Char) :
    quoteInner (c :: w) = (if c = '\'' then ['\'', '\\', '\'', '\''] else [c]) ++ quoteInner w := rfl

def quote (w : List Char) : List Char :=
  if w = [] then ['\'', '\'']
  else if w.any isSpecial then '\'' :: (quoteInner w ++ ['\''])
  else w

/-- words with a blank between them -/
def join (ws : List (List Char)) : List Char := [' '].intercalate (ws.map quote)

end PromptDispatch.Words

import PromptDispatch.Text.Printable

/-!
# Quoted text for messages

`quoted` writes a text between double quotes so that every character of it can be seen: quotes and
backslashes take a backslash, line ends and tabs are named, and a character without a shape is
written by its number.
-/

namespace PromptDispatch.Text

def quotedChar (c : Char) : List Char :=
  if c = '"' then ['\\', '"']
  else if c = '\\' then ['\\', '\\']
  else if c = '\n' then ['\\', 'n']
  else if c = '\r' then ['\\', 'r']
  else if c = '\t' then ['\\', 't']
  else if c.toNat = 0 then ['\\', '0']
  else if isPrintable c then [c]
  else ['\\', 'u', '\x7b'] ++ Nat.toDigits 16 c.toNat ++ ['\x7d']

def quoted (s : List Char) : List Char := '"' :: (s.flatMap quotedChar ++ ['"'])

end PromptDispatch.Text

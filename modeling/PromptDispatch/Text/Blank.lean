/-!
# Blank characters: trimming and words

A blank is a character of the property `White_Space`.  `trim` drops the blanks around a text and
`words` cuts a text into its maximal runs of characters that are not blank.
-/

namespace PromptDispatch.Text

/-! ## the property -/

/-- the characters with the property `White_Space` -/
def isBlank (c : Char) : Bool :=
  let n := c.toNat
  (9 ≤ n && n ≤ 13) || n == 0x20 || n == 0x85 || n == 0xA0 || n == 0x1680 ||
  (0x2000 ≤ n && n ≤ 0x200A) || n == 0x2028 || n == 0x2029 || n == 0x202F || n == 0x205F ||
  n == 0x3000

/-! ## trimming -/

def trimStart (s : List Char) : List Char := s.dropWhile isBlank

def trimEnd (s : List Char) : List Char := (s.reverse.dropWhile isBlank).reverse

def trim (s : List Char) : List Char := trimEnd (trimStart s)

theorem trimStart_nil : trimStart [] = [] := rfl
theorem trimStart_cons_of_blank {c : Char} (h : isBlank c = true) (s : List Char) :
    trimStart (c :: s) = trimStart s := by
  simp [trimStart, h]
theorem trimStart_cons_of_not_blank {c : Char} (h : isBlank c = false) (s : List Char) :
    trimStart (c :: s) = c :: s := by
  simp [trimStart, h]
theorem trim_nil : trim [] = [] := rfl

/-- only blanks, or nothing -/
def isBlankText (s : List Char) : Bool := s.all isBlank

/-! ## words -/

/-- the maximal runs of characters that are not blank -/
def words (s : List Char) : List (List Char) :=
  (s.splitOnP isBlank).filter fun w => !w.isEmpty

end PromptDispatch.Text

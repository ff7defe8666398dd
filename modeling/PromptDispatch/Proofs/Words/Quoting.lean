import Mathlib.Data.List.Forall2
import PromptDispatch.Words.Quote
import PromptDispatch.Words.Split

/-!
# Words that are read back

A word that was quoted is read as that word, whatever its characters are, and words that were joined
are read as these words.  The reader is followed from place to place, with the rest of the text left
open:

* `splitFrom_quoteInner`   what stands between single quotes;
* `Writes`                 a text that stands for one word, whatever comes after it;
* `writes_quoted`, `writes_plain`, `writes_quote`   words in quotes, words without, and both;
* `split_intercalate`      texts with blanks between them;
* `split_join`             words that were joined;
* `intercalate_concat`, `join_eq_nil_iff`   what a joined text looks like.
-/

namespace PromptDispatch.Words

/-! ## between single quotes -/

theorem splitFrom_single_of_ne {c : Char} (hc : c ≠ '\'') (word rest : List Char) :
    splitFrom .single word (c :: rest) = splitFrom .single (c :: word) rest :=
  if_neg hc

/-- The reader takes the characters back and stands behind the closing quote. -/
theorem splitFrom_quoteInner (w word rest : List Char) :
    splitFrom .single word (quoteInner w ++ '\'' :: rest) =
      splitFrom .inside (w.reverse ++ word) rest := by
  induction w generalizing word with
  | nil => rfl
  | cons c w ih =>
    rw [List.reverse_cons, List.append_assoc, List.singleton_append, ← ih, quoteInner_cons]
    by_cases hc : c = '\''
    · -- a quote closes the quotes, stands after a backslash and opens them again
      subst hc
      rfl
    · rw [if_neg hc, List.singleton_append, List.cons_append, splitFrom_single_of_ne hc]

/-! ## characters without quotes -/

/-- a character that is read as itself outside quotes, also at the start of a word -/
def isPlain (c : Char) : Bool := c ∉ ['\'', '"', '\\', ' ', '\t', '\n', '#']

theorem isPlain_of_not_special {c : Char} (h : isSpecial c = false) : isPlain c = true := by
  have hspecial : ∀ d ∈ ['\'', '"', '\\', ' ', '\t', '\n', '#'], isSpecial d = true :=
    List.all_eq_true.1 (by decide)
  unfold isPlain
  rw [decide_eq_true_eq]
  intro hc
  rw [hspecial c hc] at h
  cases h

section
variable {c : Char} (hc : isPlain c = true)
include hc

theorem splitFrom_outside_plain (word rest : List Char) :
    splitFrom .outside word (c :: rest) = splitFrom .inside [c] rest := by
  simp only [isPlain, List.mem_cons, List.not_mem_nil, or_false, not_or, decide_eq_true_eq] at hc
  obtain ⟨hquote, hdouble, hbackslash, hblank, htab, hline, hcomment⟩ := hc
  conv_lhs => unfold splitFrom
  simp [isSeparator, hquote, hdouble, hbackslash, hblank, htab, hline, hcomment]

theorem splitFrom_inside_plain (word rest : List Char) :
    splitFrom .inside word (c :: rest) = splitFrom .inside (c :: word) rest := by
  simp only [isPlain, List.mem_cons, List.not_mem_nil, or_false, not_or, decide_eq_true_eq] at hc
  obtain ⟨hquote, hdouble, hbackslash, hblank, htab, hline, -⟩ := hc
  conv_lhs => unfold splitFrom
  simp [isSeparator, hquote, hdouble, hbackslash, hblank, htab, hline]

end

theorem splitFrom_inside_plains {w : List Char} (h : ∀ c ∈ w, isPlain c = true)
    (word rest : List Char) :
    splitFrom .inside word (w ++ rest) = splitFrom .inside (w.reverse ++ word) rest := by
  induction w generalizing word with
  | nil => rfl
  | cons c w ih =>
    obtain ⟨hc, hw⟩ := List.forall_mem_cons.1 h
    rw [List.cons_append, splitFrom_inside_plain hc, ih hw, List.reverse_cons, List.append_assoc]
    rfl

/-! ## texts that stand for a word -/

/-- From between words the reader gets into the word and through the text, to its end. -/
def Writes (t w : List Char) : Prop :=
  ∀ rest, splitFrom .outside [] (t ++ rest) = splitFrom .inside w.reverse rest

theorem writes_quoted (w : List Char) : Writes ('\'' :: (quoteInner w ++ ['\''])) w := by
  intro rest
  show splitFrom .single [] (quoteInner w ++ ['\''] ++ rest) = _
  rw [List.append_assoc, List.singleton_append, splitFrom_quoteInner, List.append_nil]

theorem writes_plain {w : List Char} (hne : w ≠ []) (h : ∀ c ∈ w, isPlain c = true) :
    Writes w w := by
  obtain ⟨c, w, rfl⟩ := List.exists_cons_of_ne_nil hne
  obtain ⟨hc, hw⟩ := List.forall_mem_cons.1 h
  intro rest
  rw [List.cons_append, splitFrom_outside_plain hc, splitFrom_inside_plains hw, List.reverse_cons]

/-- What has to be quoted is in quotes, and what is not means nothing to the reader. -/
theorem writes_quote (w : List Char) : Writes (quote w) w := by
  unfold quote
  by_cases hempty : w = []
  · subst hempty
    exact writes_quoted []
  · rw [if_neg hempty]
    by_cases hspecial : w.any isSpecial = true
    · rw [if_pos hspecial]
      exact writes_quoted w
    · rw [if_neg hspecial]
      refine writes_plain hempty fun c hc => isPlain_of_not_special ?_
      exact Bool.eq_false_iff.2 fun h => hspecial (List.any_eq_true.2 ⟨c, hc, h⟩)

section
variable {t w : List Char} (h : Writes t w)
include h

theorem Writes.split : split t = some [w] := by
  have hread := h []
  rw [List.append_nil] at hread
  show splitFrom .outside [] t = _
  rw [hread]
  show some [w.reverse.reverse] = _
  rw [List.reverse_reverse]

theorem Writes.split_blank (rest : List Char) :
    Words.split (t ++ ' ' :: rest) = (Words.split rest).map (w :: ·) := by
  show splitFrom .outside [] (t ++ ' ' :: rest) = _
  rw [h]
  show (splitFrom .outside [] rest).map (w.reverse.reverse :: ·) = _
  rw [List.reverse_reverse]
  rfl

end

/-! ## words with blanks between them -/

theorem split_intercalate {ts ws : List (List Char)} (h : List.Forall₂ Writes ts ws) :
    split ([' '].intercalate ts) = some ws := by
  induction h with
  | nil => rfl
  | @cons t w ts ws ht hts ih =>
    cases hts with
    | nil =>
      rw [List.intercalate_singleton]
      exact ht.split
    | cons =>
      rw [List.intercalate_cons_cons, List.append_assoc, List.singleton_append, ht.split_blank, ih]
      rfl

theorem intercalate_concat {ts : List (List Char)} (hts : ts ≠ []) (t : List Char) :
    [' '].intercalate (ts ++ [t]) = [' '].intercalate ts ++ ' ' :: t := by
  induction ts with
  | nil => exact absurd rfl hts
  | cons x r ih =>
    cases r with
    | nil =>
      rw [List.singleton_append, List.intercalate_cons_cons, List.intercalate_singleton,
        List.intercalate_singleton, List.append_assoc]
      rfl
    | cons y r =>
      rw [List.cons_append, List.cons_append, List.intercalate_cons_cons, ← List.cons_append,
        ih (List.cons_ne_nil y r), List.intercalate_cons_cons, List.append_assoc _ _ (' ' :: t)]

theorem forall₂_writes_quote (ws : List (List Char)) : List.Forall₂ Writes (ws.map quote) ws :=
  List.forall₂_map_left_iff.2 (List.forall₂_same.2 fun w _ => writes_quote w)

/-- **Words that were joined are read as these words**, whatever their characters are. -/
theorem split_join (ws : List (List Char)) : split (join ws) = some ws :=
  split_intercalate (forall₂_writes_quote ws)

example :
    join ["it's".toList, [], "a#b".toList, "x".toList] = "'it'\\''s' '' 'a#b' x".toList ∧
      split "'it'\\''s' '' 'a#b' x".toList = some ["it's".toList, [], "a#b".toList, "x".toList] := by
  decide

theorem join_eq_nil_iff {ws : List (List Char)} : join ws = [] ↔ ws = [] := by
  constructor
  · intro h
    have hsplit := split_join ws
    rw [h] at hsplit
    exact (Option.some.inj hsplit).symm
  · rintro rfl
    rfl

end PromptDispatch.Words

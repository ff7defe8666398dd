import PromptDispatch.Text.Lines

/-!
# Texts line by line

Lines are cut after every line feed, so that cutting goes through an end of line
(`linesWithEnds_append`), and a fact about all texts can be proved one line after another
(`lineInduction`).  What is cut are lines one after the other (`LineList`), and nothing but the text
says which ones (`lineList_iff`); lines can be left out without touching those around them
(`LineList.filter`).
-/

namespace PromptDispatch.Text

theorem linesWithEnds_eq_nil {s : List Char} (h : linesWithEnds s = []) : s = [] := by
  rw [← flatten_linesWithEnds s, h]
  rfl

theorem linesWithEnds_append (a b : List Char) :
    linesWithEnds (a ++ '\n' :: b) = linesWithEnds (a ++ ['\n']) ++ linesWithEnds b := by
  induction a with
  | nil => exact linesWithEnds_newline b
  | cons c a ih =>
    by_cases hc : c = '\n'
    · subst hc
      rw [List.cons_append, List.cons_append, linesWithEnds_newline, linesWithEnds_newline, ih,
        List.cons_append]
    · rw [List.cons_append, List.cons_append, linesWithEnds, linesWithEnds, if_neg hc, if_neg hc,
        ih]
      cases hl : linesWithEnds (a ++ ['\n']) with
      | nil => exact absurd (linesWithEnds_eq_nil hl) (by simp)
      | cons l ls => rfl

theorem linesWithEnds_of_line {s : List Char} (hs : s ≠ []) (h : '\n' ∉ s.dropLast) :
    linesWithEnds s = [s] := by
  induction s with
  | nil => exact absurd rfl hs
  | cons c s ih =>
    cases s with
    | nil =>
      rw [linesWithEnds]
      split <;> rfl
    | cons d s =>
      rw [List.dropLast_cons_cons, List.mem_cons, not_or] at h
      rw [linesWithEnds, if_neg (Ne.symm h.1), ih (List.cons_ne_nil d s) h.2]

theorem newline_not_mem_dropLast {l r : List Char} (hl : '\n' ∉ l) (hr : '\n' ∉ r.dropLast) :
    '\n' ∉ (l ++ r).dropLast := by
  rw [List.dropLast_append]
  split
  · exact fun h => hl (List.dropLast_subset l h)
  · exact fun h => (List.mem_append.1 h).elim hl hr

/-- one line after another, and at last a line that no line feed ends -/
theorem lineInduction {motive : List Char → Prop} (last : ∀ l, '\n' ∉ l → motive l)
    (line : ∀ l r, '\n' ∉ l → motive r → motive (l ++ '\n' :: r)) (s : List Char) : motive s := by
  by_cases h : '\n' ∈ s
  · obtain ⟨l, r, e, hl⟩ := List.eq_append_cons_of_mem h
    rw [e]
    exact line l r hl (lineInduction last line r)
  · exact last s h
termination_by s.length
decreasing_by
  rw [e, List.length_append, List.length_cons]
  omega

theorem linesWithEnds_concat {l : List Char} (h : '\n' ∉ l) :
    linesWithEnds (l ++ ['\n']) = [l ++ ['\n']] :=
  linesWithEnds_of_line (by simp) (by rwa [List.dropLast_concat])

theorem length_linesWithEnds (s : List Char) :
    (linesWithEnds (s ++ ['\n'])).length = s.count '\n' + 1 := by
  induction s using lineInduction with
  | last l hl =>
    rw [linesWithEnds_concat hl, List.count_eq_zero_of_not_mem hl]
    rfl
  | line l r hl ih =>
    rw [List.append_assoc, List.cons_append, linesWithEnds_append, linesWithEnds_concat hl,
      List.length_append, ih, List.count_append, List.count_eq_zero_of_not_mem hl,
      List.count_cons_self, List.length_singleton]
    omega

/-! ## lists of lines -/

/-- lines one after the other: a line feed ends each of them, the last one perhaps excepted, and is
nowhere else in it -/
inductive LineList : List (List Char) → Prop
  | nil : LineList []
  | last {l : List Char} (hne : l ≠ []) (hl : '\n' ∉ l) : LineList [l]
  | line {l : List Char} {ls : List (List Char)} (hl : '\n' ∉ l) (hls : LineList ls) :
    LineList ((l ++ ['\n']) :: ls)

theorem lineList_linesWithEnds (s : List Char) : LineList (linesWithEnds s) := by
  induction s using lineInduction with
  | last l hl =>
    by_cases hnil : l = []
    · subst hnil
      exact .nil
    · rw [linesWithEnds_of_line hnil fun h => hl (List.dropLast_subset l h)]
      exact .last hnil hl
  | line l r hl ih =>
    rw [linesWithEnds_append, linesWithEnds_concat hl]
    exact .line hl ih

theorem LineList.linesWithEnds_flatten {ls : List (List Char)} (h : LineList ls) :
    linesWithEnds ls.flatten = ls := by
  induction h with
  | nil => rfl
  | @last l hne hl =>
    rw [List.flatten_singleton]
    exact linesWithEnds_of_line hne fun h => hl (List.dropLast_subset l h)
  | @line l ls hl _ ih =>
    rw [List.flatten_cons, List.append_assoc, List.singleton_append, linesWithEnds_append,
      linesWithEnds_concat hl, ih]
    rfl

theorem lineList_iff {ls : List (List Char)} {s : List Char} :
    LineList ls ∧ ls.flatten = s ↔ ls = linesWithEnds s := by
  constructor
  · rintro ⟨h, rfl⟩
    exact h.linesWithEnds_flatten.symm
  · rintro rfl
    exact ⟨lineList_linesWithEnds s, flatten_linesWithEnds s⟩

/-- what is left of lines is lines: each brings its own end -/
theorem LineList.filter {ls : List (List Char)} (h : LineList ls) (p : List Char → Bool) :
    LineList (ls.filter p) := by
  induction h with
  | nil => exact .nil
  | last hne hl =>
    rw [List.filter_cons]
    split
    · exact .last hne hl
    · exact .nil
  | line hl _ ih =>
    rw [List.filter_cons]
    split
    · exact .line hl ih
    · exact ih

/-! ## the ends of a line -/

theorem dropLast?_eq_some_iff {c : Char} {l k : List Char} :
    dropLast? c l = some k ↔ l = k ++ [c] := by
  rw [dropLast?]
  constructor
  · intro h
    split at h
    · rename_i hc
      cases h
      obtain ⟨k, rfl⟩ := List.getLast?_eq_some_iff.1 hc
      rw [List.dropLast_concat]
    · cases h
  · rintro rfl
    rw [List.getLast?_concat, if_pos rfl, List.dropLast_concat]

theorem dropLast?_getD (c : Char) (l : List Char) :
    (dropLast? c l).getD l = l ∨ l = (dropLast? c l).getD l ++ [c] := by
  rw [dropLast?]
  split
  · rename_i h
    obtain ⟨k, rfl⟩ := List.getLast?_eq_some_iff.1 h
    exact .inr (by rw [List.dropLast_concat, Option.getD_some])
  · exact .inl rfl

theorem dropLast?_concat (c : Char) (l : List Char) : dropLast? c (l ++ [c]) = some l :=
  dropLast?_eq_some_iff.2 rfl

theorem dropLast?_of_ne {c : Char} {l : List Char} (h : l.getLast? ≠ some c) :
    dropLast? c l = none :=
  if_neg h

def lineTails : List (List Char) := [[], ['\r'], ['\n'], ['\r', '\n']]

theorem eq_of_mem_lineTail : ∀ e ∈ lineTails, ∀ c ∈ e, c = '\r' ∨ c = '\n' := by
  simp [lineTails]

theorem exists_lineTail (l : List Char) : ∃ e ∈ lineTails, l = lineBody l ++ e := by
  have h₂ := dropLast?_getD '\r' ((dropLast? '\n' l).getD l)
  rw [show (dropLast? '\r' ((dropLast? '\n' l).getD l)).getD ((dropLast? '\n' l).getD l) =
    lineBody l from rfl] at h₂
  rcases dropLast?_getD '\n' l with h₁ | h₁
  · rw [h₁] at h₂
    rcases h₂ with h₂ | h₂
    · exact ⟨[], by decide, by simp [h₂]⟩
    · exact ⟨['\r'], by decide, h₂⟩
  · rcases h₂ with h₂ | h₂
    · exact ⟨['\n'], by decide, by rw [h₂]; exact h₁⟩
    · refine ⟨['\r', '\n'], by decide, ?_⟩
      rw [h₂] at h₁
      simpa using h₁

/-- what does not end like a line is the body of itself with any tail -/
theorem lineBody_append {b e : List Char} (hlf : b.getLast? ≠ some '\n')
    (hcr : b.getLast? ≠ some '\r') (he : e ∈ lineTails) : lineBody (b ++ e) = b := by
  have hbody : (dropLast? '\r' b).getD b = b := by rw [dropLast?_of_ne hcr, Option.getD_none]
  have hreturn : (dropLast? '\r' (b ++ ['\r'])).getD (b ++ ['\r']) = b := by
    rw [dropLast?_concat, Option.getD_some]
  simp only [lineTails, List.mem_cons, List.not_mem_nil, or_false] at he
  rcases he with rfl | rfl | rfl | rfl
  · rw [List.append_nil, lineBody, dropLast?_of_ne hlf]
    exact hbody
  · have hend : dropLast? '\n' (b ++ ['\r']) = none := dropLast?_of_ne (by simp)
    rw [lineBody, hend]
    exact hreturn
  · rw [lineBody, dropLast?_concat]
    exact hbody
  · rw [List.append_cons, lineBody, dropLast?_concat]
    exact hreturn

end PromptDispatch.Text

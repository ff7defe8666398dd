import Mathlib.Data.List.Chain
import Mathlib.Data.List.Flatten
import PromptDispatch.Agent.Output
import PromptDispatch.Proofs.Text.Lines
import PromptDispatch.Proofs.Text.Search

/-!
# The text without its notices

Notices are whole lines, so dropping them goes line by line (`dropNotices_append`).  A stretch of
text stays as it is if its two ends cannot belong to a notice and no line of it begins like one
(`Anchored`); around it there is no text afterwards that was not there before
(`Anchored.exists_around`).
-/

namespace PromptDispatch

/-! ## lines that are notices -/

def noticeChars : List Char := credentialsNotice.toList ++ ['\r', '\n']

theorem exists_of_isNotice {l : List Char} (h : isNotice l = true) :
    ∃ e, l = credentialsNotice.toList ++ e ∧ ∀ c ∈ e, c = '\r' ∨ c = '\n' := by
  obtain ⟨e, he, hl⟩ := Text.exists_lineTail l
  rw [beq_iff_eq.1 h] at hl
  exact ⟨e, hl, Text.eq_of_mem_lineTail e he⟩

theorem mem_noticeChars {l : List Char} {c : Char} (h : isNotice l = true) (hc : c ∈ l) :
    c ∈ noticeChars := by
  obtain ⟨e, rfl, he⟩ := exists_of_isNotice h
  rcases List.mem_append.1 hc with hc | hc
  · exact List.mem_append_left _ hc
  · refine List.mem_append_right _ ?_
    rcases he c hc with rfl | rfl
    · exact List.mem_cons_self
    · exact List.mem_cons_of_mem _ List.mem_cons_self

theorem isNotice_of_mem {l : List Char} {c : Char} (hc : c ∈ l) (hn : c ∉ noticeChars) :
    isNotice l = false := by
  cases h : isNotice l with
  | false => rfl
  | true => exact absurd (mem_noticeChars h hc) hn

theorem head?_of_isNotice {l : List Char} (h : isNotice l = true) : l.head? = some 'L' := by
  obtain ⟨e, rfl, -⟩ := exists_of_isNotice h
  rfl

/-! ## dropping line by line -/

theorem dropNotices_newline (a b : List Char) :
    dropNotices (a ++ '\n' :: b) = dropNotices (a ++ ['\n']) ++ dropNotices b := by
  rw [dropNotices, Text.linesWithEnds_append, List.filter_append, List.flatten_append]
  rfl

theorem dropNotices_of_line {s : List Char} (h : '\n' ∉ s.dropLast) :
    dropNotices s = if isNotice s then [] else s := by
  by_cases hs : s = []
  · subst hs
    rfl
  · rw [dropNotices, Text.linesWithEnds_of_line hs h]
    cases h : isNotice s <;> simp [h]

theorem dropNotices_append {a : List Char} (ha : a = [] ∨ a.getLast? = some '\n') (b : List Char) :
    dropNotices (a ++ b) = dropNotices a ++ dropNotices b := by
  rcases ha with rfl | ha
  · rfl
  · obtain ⟨a', rfl⟩ := List.getLast?_eq_some_iff.1 ha
    rw [List.append_assoc]
    exact dropNotices_newline a' b

theorem dropNotices_sublist (s : List Char) : (dropNotices s).Sublist s := by
  have h := (List.filter_sublist (p := fun l => !isNotice l) (l := Text.linesWithEnds s)).flatten
  rwa [Text.flatten_linesWithEnds] at h

/-! ## what stays -/

/-- no line but the first begins like a notice -/
def Unbroken (s : List Char) : Prop := s.IsChain fun c d => c = '\n' → d ≠ 'L'

theorem unbroken_of_not_mem {s : List Char} (h : 'L' ∉ s) : Unbroken s := by
  rw [Unbroken, List.isChain_iff_forall_rel_of_append_cons_cons]
  intro c d x y e _ hd
  exact h (by simp [e, hd])

theorem Unbroken.append {s t : List Char} (hs : Unbroken s) (ht : Unbroken t)
    (hl : t.head? ≠ some 'L') : Unbroken (s ++ t) :=
  List.IsChain.append hs ht fun _ _ _ hd _ e => hl (e ▸ hd)

theorem Unbroken.append_left {s t : List Char} (hs : '\n' ∉ s) (ht : Unbroken t) :
    Unbroken (s ++ t) := by
  have hs' : Unbroken s := by
    rw [Unbroken, List.isChain_iff_forall_rel_of_append_cons_cons]
    intro c d x y e hc
    exact absurd (by simp [e, hc]) hs
  exact List.IsChain.append hs' ht fun c hc d _ e => absurd (e ▸ List.mem_of_getLast? hc) hs

/-- a stretch whose ends are no characters of a notice -/
structure Anchored (m : List Char) : Prop where
  ends : ∃ c u d, m = c :: (u ++ [d]) ∧ c ∉ noticeChars ∧ d ∉ noticeChars
  unbroken : Unbroken m

theorem newline_mem_noticeChars : '\n' ∈ noticeChars :=
  List.mem_append_right _ (List.mem_cons_of_mem _ List.mem_cons_self)

theorem getLast?_after_newline {q u : List Char} {d : Char} (hd : d ∈ (q ++ '\n' :: u).getLast?)
    (hn : d ∉ noticeChars) : d ∈ u.getLast? := by
  cases u with
  | nil =>
    rw [List.getLast?_concat] at hd
    cases hd
    exact absurd newline_mem_noticeChars hn
  | cons e u => simpa using hd

theorem dropNotices_of_head {u r : List Char} {d : Char} (hr : '\n' ∉ r.dropLast)
    (hhead : u.head? ≠ some 'L') (hd : d ∈ u.getLast?) (hn : d ∉ noticeChars)
    (hu : Unbroken u) : dropNotices (u ++ r) = u ++ r := by
  induction u using Text.lineInduction with
  | last l hl =>
    rw [dropNotices_of_line (Text.newline_not_mem_dropLast hl hr),
      isNotice_of_mem (List.mem_append_left r (List.mem_of_getLast? hd)) hn]
    rfl
  | line l u hl ih =>
    have hline : isNotice (l ++ ['\n']) = false := by
      cases h : isNotice (l ++ ['\n']) with
      | false => rfl
      | true =>
        refine absurd ?_ hhead
        rw [← head?_of_isNotice h, List.head?_append, List.head?_append]
        rfl
    have hrest := List.IsChain.right_of_append hu
    have hhead' : u.head? ≠ some 'L' := fun h => List.IsChain.rel_head? hrest h rfl rfl
    rw [List.append_assoc, List.cons_append, dropNotices_newline,
      ih hhead' (getLast?_after_newline hd hn) (List.IsChain.tail hrest),
      dropNotices_of_line (Text.newline_not_mem_dropLast hl List.not_mem_nil), hline]
    simp

theorem Anchored.dropNotices_eq {m l r : List Char} (hm : Anchored m) (hl : '\n' ∉ l)
    (hr : '\n' ∉ r.dropLast) : dropNotices (l ++ (m ++ r)) = l ++ (m ++ r) := by
  obtain ⟨c, u, d, he, hc, hd⟩ := hm.ends
  by_cases hn : '\n' ∈ m
  · obtain ⟨q, u', hq, hnq⟩ := List.eq_append_cons_of_mem hn
    have hcq : c ∈ q := by
      cases q with
      | nil =>
        obtain ⟨rfl, -⟩ := List.cons.inj (he.symm.trans hq)
        exact absurd newline_mem_noticeChars hc
      | cons c' q =>
        obtain ⟨rfl, -⟩ := List.cons.inj (he.symm.trans hq)
        exact List.mem_cons_self
    have hlast : d ∈ u'.getLast? := by
      refine getLast?_after_newline (q := q) ?_ hd
      rw [← hq, he, ← List.cons_append, List.getLast?_concat]
      rfl
    have hlines := List.IsChain.right_of_append (hq ▸ hm.unbroken)
    have hhead : u'.head? ≠ some 'L' := fun h => List.IsChain.rel_head? hlines h rfl rfl
    have hlq : '\n' ∉ l ++ q := fun h => (List.mem_append.1 h).elim hl hnq
    have hfirst : isNotice ((l ++ q) ++ ['\n']) = false :=
      isNotice_of_mem (List.mem_append_left _ (List.mem_append_right l hcq)) hc
    calc dropNotices (l ++ (m ++ r)) = dropNotices ((l ++ q) ++ '\n' :: (u' ++ r)) := by simp [hq]
      _ = ((l ++ q) ++ ['\n']) ++ (u' ++ r) := by
        rw [dropNotices_newline, dropNotices_of_head hr hhead hlast hd (List.IsChain.tail hlines),
          dropNotices_of_line (Text.newline_not_mem_dropLast hlq List.not_mem_nil), hfirst]
        rfl
      _ = l ++ (m ++ r) := by simp [hq]
  · have hcm : c ∈ l ++ (m ++ r) := by simp [he]
    have hline := Text.newline_not_mem_dropLast hl (Text.newline_not_mem_dropLast hn hr)
    rw [dropNotices_of_line hline, isNotice_of_mem hcm hc]
    rfl

/-! ## around a stretch that stays -/

theorem Anchored.exists_after {m : List Char} (hm : Anchored m) (s : List Char) :
    ∃ s', s'.Sublist s ∧ ∀ l, '\n' ∉ l → dropNotices (l ++ (m ++ s)) = l ++ (m ++ s') := by
  by_cases hs : '\n' ∈ s
  · obtain ⟨a, b, rfl, ha⟩ := List.eq_append_cons_of_mem hs
    refine ⟨a ++ '\n' :: dropNotices b, ?_, fun l hl => ?_⟩
    · exact (List.Sublist.refl a).append ((dropNotices_sublist b).cons_cons '\n')
    · have hline := hm.dropNotices_eq (r := a ++ ['\n']) hl
        (Text.newline_not_mem_dropLast ha List.not_mem_nil)
      calc dropNotices (l ++ (m ++ (a ++ '\n' :: b)))
          = dropNotices ((l ++ m ++ a) ++ '\n' :: b) := by simp
        _ = dropNotices (l ++ (m ++ (a ++ ['\n']))) ++ dropNotices b := by
          rw [dropNotices_newline]
          simp
        _ = l ++ (m ++ (a ++ '\n' :: dropNotices b)) := by
          rw [hline]
          simp
  · exact ⟨s, List.Sublist.refl s, fun l hl =>
      hm.dropNotices_eq hl fun h => hs (List.dropLast_subset s h)⟩

/-- Around a stretch that stays nothing is put together: what is before it afterwards and stands in
one line was before it all along. -/
theorem Anchored.exists_around {m : List Char} (hm : Anchored m) (p s : List Char) :
    ∃ p' s', dropNotices (p ++ (m ++ s)) = p' ++ (m ++ s') ∧
      (∀ w, '\n' ∉ w → w <:+: p' → w <:+: p) ∧ s'.Sublist s := by
  obtain ⟨s', hs, hm'⟩ := hm.exists_after s
  -- the lines before the stretch one by one; the last of them goes on into it
  induction p using Text.lineInduction with
  | last l hl => exact ⟨l, s', hm' l hl, fun w _ h => h, hs⟩
  | line l p hl ih =>
    obtain ⟨p', s'', hp, hw, hs''⟩ := ih
    have hcut : dropNotices ((l ++ '\n' :: p) ++ (m ++ s)) =
        dropNotices (l ++ ['\n']) ++ (p' ++ (m ++ s'')) := by
      rw [List.append_assoc, List.cons_append, dropNotices_newline, hp]
    have hline := dropNotices_of_line
      (Text.newline_not_mem_dropLast (r := ['\n']) hl List.not_mem_nil)
    have hright {w : List Char} (h : w <:+: p) : w <:+: l ++ '\n' :: p :=
      h.trans ((List.suffix_cons '\n' p).isInfix.trans (List.suffix_append l _).isInfix)
    refine ⟨dropNotices (l ++ ['\n']) ++ p', s'', by rw [hcut, List.append_assoc], ?_, hs''⟩
    intro w hn h
    rw [hline] at h
    split at h
    · exact hright (hw w hn h)
    · rw [List.append_assoc, List.singleton_append] at h
      rcases Text.infix_append_cons hn h with h | h
      · exact h.trans (List.prefix_append l _).isInfix
      · exact hright (hw w hn h)

end PromptDispatch

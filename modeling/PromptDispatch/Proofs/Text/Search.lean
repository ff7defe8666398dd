import Mathlib.Data.List.TakeWhile
import PromptDispatch.Text.Search

/-!
# What a search finds

`cutAt` finds the first place of a text that stands somewhere in another one: nothing before the cut
holds it (`not_infix_of_cutAt`), and a place that is there is found, perhaps earlier where the two
overlap (`cutAt_append`).  `firstTo` finds the stretch between the first and the last of two marks.
-/

namespace PromptDispatch.Text

/-! ## infixes -/

theorem infix_append_cons {w a b : List Char} {c : Char} (hc : c ∉ w) (h : w <:+: a ++ c :: b) :
    w <:+: a ∨ w <:+: b := by
  obtain ⟨x, y, h⟩ := h
  rcases List.append_eq_append_iff.1 h with ⟨z, rfl, -⟩ | ⟨z, e, hz⟩
  · exact .inl ⟨x, z, rfl⟩
  · cases z with
    | nil => exact .inl ⟨x, [], by simpa using e⟩
    | cons d z =>
      obtain ⟨rfl, rfl⟩ := List.cons.inj hz
      rcases List.append_eq_append_iff.1 e with ⟨u, -, rfl⟩ | ⟨u, -, hu⟩
      · exact absurd (List.mem_append_right u List.mem_cons_self) hc
      · cases u with
        | nil =>
          rw [List.nil_append] at hu
          exact absurd (hu ▸ List.mem_cons_self) hc
        | cons _ u =>
          obtain ⟨-, rfl⟩ := List.cons.inj hu
          exact .inr ⟨u, y, rfl⟩

theorem infix_of_infix_append {w a b : List Char} (hw : w ≠ []) (hb : ∀ c ∈ b, c ∉ w)
    (h : w <:+: a ++ b) : w <:+: a := by
  cases b with
  | nil => rwa [List.append_nil] at h
  | cons c b =>
    rcases infix_append_cons (hb c List.mem_cons_self) h with h | h
    · exact h
    · obtain ⟨d, w', rfl⟩ := List.exists_cons_of_ne_nil hw
      have hd : d ∈ b := h.subset List.mem_cons_self
      exact absurd List.mem_cons_self (hb d (List.mem_cons_of_mem c hd))

theorem infix_of_infix_append_right {w a b : List Char} (hw : w ≠ []) (ha : ∀ c ∈ a, c ∉ w)
    (h : w <:+: a ++ b) : w <:+: b := by
  induction a with
  | nil => exact h
  | cons c a ih =>
    rw [List.cons_append] at h
    rcases List.infix_cons_iff.1 h with h | h
    · obtain ⟨d, w', rfl⟩ := List.exists_cons_of_ne_nil hw
      obtain ⟨rfl, -⟩ := List.cons_prefix_cons.1 h
      exact absurd List.mem_cons_self (ha d List.mem_cons_self)
    · exact ih (fun d hd => ha d (List.mem_cons_of_mem c hd)) h

/-! ## beginnings -/

/-- texts that begin with two different characters differ, whatever follows -/
theorem append_ne_append {a b : List Char} {c d : Char} (ha : a.head? = some c)
    (hb : b.head? = some d) (hcd : c ≠ d) (r s : List Char) : a ++ r ≠ b ++ s := by
  intro h
  have hhead := congrArg List.head? h
  rw [List.head?_append, List.head?_append, ha, hb] at hhead
  exact hcd (Option.some.inj hhead)

/-! ## the first place -/

theorem after?_append (p r : List Char) : after? p (p ++ r) = some r :=
  after?_eq_some_iff.2 rfl

theorem cutAt_nil_left (s : List Char) : cutAt [] s = some ([], s) := by
  cases s <;> rfl

theorem not_infix_of_cutAt {w s a b : List Char} (hw : w ≠ []) (h : cutAt w s = some (a, b)) :
    ¬w <:+: a := by
  induction s generalizing a with
  | nil =>
    obtain ⟨r, -, e⟩ := Option.map_eq_some_iff.1 h
    cases e
    exact fun hi => hw (List.infix_nil.1 hi)
  | cons c s ih =>
    rw [cutAt] at h
    split at h
    · cases h
      exact fun hi => hw (List.infix_nil.1 hi)
    · rename_i hn
      obtain ⟨⟨a', b'⟩, h', e⟩ := Option.map_eq_some_iff.1 h
      cases e
      intro hi
      rcases List.infix_cons_iff.1 hi with ⟨z, hz⟩ | hi
      · have hs := append_of_cutAt h'
        rw [hs, ← List.cons_append, ← List.cons_append, ← hz, List.append_assoc, List.append_assoc,
          after?_append] at hn
        cases hn
      · exact ih h' hi

/-- A text that is there is found.  The cut comes before it where its beginning also ends what is
before it: `q` is that beginning, and `e` what the cut then leaves of the text. -/
theorem cutAt_append {w p : List Char} (h : ¬w <:+: p) (r : List Char) :
    ∃ a q e, p = a ++ q ∧ q <+: w ∧ e <:+ w ∧ e.length = q.length ∧
      cutAt w (p ++ (w ++ r)) = some (a, e ++ r) := by
  induction p with
  | nil =>
    refine ⟨[], [], [], rfl, List.nil_prefix, List.nil_suffix, rfl, ?_⟩
    cases w with
    | nil => exact cutAt_nil_left r
    | cons c w =>
      show cutAt (c :: w) (c :: w ++ r) = _
      rw [List.cons_append, cutAt, ← List.cons_append, after?_append]
      rfl
  | cons c p ih =>
    rw [List.cons_append, cutAt]
    cases hf : after? w (c :: (p ++ (w ++ r))) with
    | none =>
      obtain ⟨a, q, e, hp, hq, he, hl, hcut⟩ := ih fun hi => h (List.infix_cons hi)
      exact ⟨c :: a, q, e, by rw [hp, List.cons_append], hq, he, hl, by simp [hcut]⟩
    | some s =>
      have hs : (c :: p) ++ (w ++ r) = w ++ s := after?_eq_some_iff.1 hf
      rcases List.append_eq_append_iff.1 hs with ⟨u, hu, hr⟩ | ⟨u, hu, -⟩
      · rcases List.append_eq_append_iff.1 hr with ⟨e, he, -⟩ | ⟨e, he, rfl⟩
        · have hlen := congrArg List.length hu
          rw [he] at hlen
          simp only [List.length_append, List.length_cons] at hlen
          omega
        · refine ⟨[], c :: p, e, rfl, ⟨u, hu.symm⟩, ⟨u, he.symm⟩, ?_, rfl⟩
          have hlen := congrArg List.length (he.symm.trans hu)
          simp only [List.length_append] at hlen
          omega
      · exact absurd ⟨[], u, by simpa using hu.symm⟩ h

theorem cutAt_append_self {w p : List Char} (h : ¬w <:+: p)
    (hp : ∀ c ∈ p.getLast?, c ∉ w) (r : List Char) : cutAt w (p ++ (w ++ r)) = some (p, r) := by
  obtain ⟨a, q, e, rfl, hq, -, hl, hcut⟩ := cutAt_append h r
  rcases List.eq_nil_or_concat q with rfl | ⟨q', c, rfl⟩
  · obtain rfl : e = [] := List.length_eq_zero_iff.1 hl
    rw [hcut, List.append_nil, List.nil_append]
  · rw [List.concat_eq_append] at hp hq
    have hc : c ∈ (a ++ (q' ++ [c])).getLast? := by
      rw [← List.append_assoc, List.getLast?_concat]
      rfl
    exact absurd (hq.subset (List.mem_append_right q' List.mem_cons_self)) (hp c hc)

/-! ## from one mark to another -/

theorem dropWhile_ne_append {c : Char} {a : List Char} (h : c ∉ a) (b : List Char) :
    (a ++ c :: b).dropWhile (· ≠ c) = c :: b := by
  have ha : ∀ d ∈ a, decide (d ≠ c) = true := fun d hd =>
    decide_eq_true fun e : d = c => h (e ▸ hd)
  rw [List.dropWhile_append_of_pos ha]
  exact List.dropWhile_cons_of_neg (by simp)

theorem takeWhile_ne_append {c : Char} {a : List Char} (h : c ∉ a) (b : List Char) :
    (a ++ c :: b).takeWhile (· ≠ c) = a := by
  have ha : ∀ d ∈ a, decide (d ≠ c) = true := fun d hd =>
    decide_eq_true fun e : d = c => h (e ▸ hd)
  rw [List.takeWhile_append_of_pos ha, List.takeWhile_cons_of_neg (by simp), List.append_nil]

theorem exists_dropWhile_ne {c : Char} {s r : List Char} {d : Char}
    (h : s.dropWhile (· ≠ c) = d :: r) : ∃ a, s = a ++ c :: r ∧ c ∉ a := by
  have hd := List.head?_dropWhile_not (· ≠ c) s
  rw [h] at hd
  obtain rfl : d = c := by simpa using hd
  refine ⟨s.takeWhile (· ≠ d), ?_, fun hc => ?_⟩
  · rw [← h, List.takeWhile_append_dropWhile]
  · simpa using List.mem_takeWhile_imp hc

theorem upToLast_append {d : Char} {b : List Char} (h : d ∉ b) (a : List Char) :
    upToLast d (a ++ d :: b) = a ++ [d] := by
  have hr : (a ++ d :: b).reverse = b.reverse ++ d :: a.reverse := by simp
  rw [upToLast, hr, dropWhile_ne_append (by simpa using h)]
  simp

theorem eq_of_append_last {c : Char} {a b r s : List Char} (hr : c ∉ r) (hs : c ∉ s)
    (h : a ++ c :: r = b ++ c :: s) : a = b := by
  have hlast := congrArg (upToLast c) h
  rw [upToLast_append hr, upToLast_append hs] at hlast
  exact List.append_cancel_right hlast

theorem firstTo_append {c d : Char} {p r : List Char} (hp : c ∉ p) (hr : d ∉ r) (m : List Char) :
    firstTo c d (p ++ (c :: (m ++ [d]) ++ r)) = some (c :: (m ++ [d])) := by
  have h : upToLast d (m ++ [d] ++ r) = m ++ [d] := by
    rw [List.append_assoc, List.singleton_append, upToLast_append hr]
  rw [firstTo, List.cons_append, dropWhile_ne_append hp]
  simp only [h]
  cases m <;> rfl

theorem exists_of_firstTo {c d : Char} {s t : List Char} (h : firstTo c d s = some t) :
    ∃ p m r, t = c :: (m ++ [d]) ∧ s = p ++ (t ++ r) ∧ c ∉ p ∧ d ∉ r := by
  rw [firstTo] at h
  split at h
  · cases h
  · rename_i _ e r hs
    split at h
    · cases h
    · rename_i k hk
      cases h
      obtain ⟨p, hp, hcp⟩ := exists_dropWhile_ne hs
      have hne : r.reverse.dropWhile (· ≠ d) ≠ [] := by
        intro he
        rw [upToLast, he] at hk
        exact hk rfl
      obtain ⟨e', m, hm⟩ := List.exists_cons_of_ne_nil hne
      obtain ⟨b, hb, hdb⟩ := exists_dropWhile_ne hm
      have hr : r = m.reverse ++ d :: b.reverse := by
        rw [← List.reverse_reverse r, hb]
        simp
      have hu : upToLast d r = m.reverse ++ [d] := by
        rw [hr]
        exact upToLast_append (by simpa using hdb) m.reverse
      exact ⟨p, m.reverse, b.reverse, by rw [hu], by rw [hp, hu, hr]; simp, hcp, by simpa using hdb⟩

end PromptDispatch.Text

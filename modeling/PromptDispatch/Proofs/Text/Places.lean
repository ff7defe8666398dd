import PromptDispatch.Proofs.Text.Search

/-!
# First and last places

A text that stands in another one has a first place there and a last one, told by what is before
them.  `cutAt` cuts at the first place (`cutAt_eq_some_iff`), and `firstTo` takes the stretch from
the first place of one mark to the last one of another (`firstTo_eq_some_iff`).
-/

namespace PromptDispatch.Text

/-! ## places -/

section
variable {α : Type} {w a b s : List α} {c : α}

/-- `w` stands after `a` in `s`, and nowhere before that -/
structure First (w a s : List α) : Prop where
  stands : a ++ w <+: s
  least : ∀ b, b ++ w <+: s → a.length ≤ b.length

/-- `w` stands after `a` in `s`, and nowhere behind that -/
structure Last (w a s : List α) : Prop where
  stands : a ++ w <+: s
  greatest : ∀ b, b ++ w <+: s → b.length ≤ a.length

theorem prefix_of_stands (h : a ++ w <+: s) : a <+: s := (List.prefix_append a w).trans h

theorem first_iff : First w a s ↔ a ++ w <+: s ∧ ∀ b, b ++ w <+: s → a.length ≤ b.length :=
  ⟨fun h => ⟨h.1, h.2⟩, fun h => ⟨h.1, h.2⟩⟩

theorem last_iff : Last w a s ↔ a ++ w <+: s ∧ ∀ b, b ++ w <+: s → b.length ≤ a.length :=
  ⟨fun h => ⟨h.1, h.2⟩, fun h => ⟨h.1, h.2⟩⟩

theorem eq_of_prefix_of_length_eq (ha : a <+: s) (hb : b <+: s) (h : a.length = b.length) :
    a = b :=
  (List.prefix_of_prefix_length_le ha hb h.le).eq_of_length h

theorem First.unique (ha : First w a s) (hb : First w b s) : a = b :=
  eq_of_prefix_of_length_eq (prefix_of_stands ha.stands) (prefix_of_stands hb.stands)
    (Nat.le_antisymm (ha.least b hb.stands) (hb.least a ha.stands))

theorem Last.unique (ha : Last w a s) (hb : Last w b s) : a = b :=
  eq_of_prefix_of_length_eq (prefix_of_stands ha.stands) (prefix_of_stands hb.stands)
    (Nat.le_antisymm (hb.greatest a ha.stands) (ha.greatest b hb.stands))

theorem first_singleton_iff : First [c] a s ↔ ∃ r, s = a ++ c :: r ∧ c ∉ a := by
  constructor
  · rintro ⟨⟨r, hr⟩, hleast⟩
    refine ⟨r, by rw [← hr, List.append_assoc, List.singleton_append], fun hc => ?_⟩
    obtain ⟨x, y, rfl⟩ := List.append_of_mem hc
    have hle := hleast x ⟨y ++ c :: r, by rw [← hr]; simp⟩
    rw [List.length_append, List.length_cons] at hle
    omega
  · rintro ⟨r, rfl, hc⟩
    refine ⟨⟨r, by simp⟩, fun b hb => Nat.le_of_not_lt fun hlt => hc ?_⟩
    exact (List.prefix_of_prefix_length_le hb (List.prefix_append a _) (by simpa)).subset (by simp)

theorem last_singleton_iff : Last [c] a s ↔ ∃ r, s = a ++ c :: r ∧ c ∉ r := by
  constructor
  · rintro ⟨⟨r, hr⟩, hgreatest⟩
    refine ⟨r, by rw [← hr, List.append_assoc, List.singleton_append], fun hc => ?_⟩
    obtain ⟨x, y, rfl⟩ := List.append_of_mem hc
    have hle := hgreatest (a ++ c :: x) ⟨y, by rw [← hr]; simp⟩
    rw [List.length_append, List.length_cons] at hle
    omega
  · rintro ⟨r, rfl, hc⟩
    refine ⟨⟨r, by simp⟩, fun b hb => Nat.le_of_not_lt fun hlt => hc ?_⟩
    -- the mark after `b` would stand among what is behind the one after `a`
    obtain ⟨t, rfl⟩ : a ++ [c] <+: b :=
      List.prefix_of_prefix_length_le (by simp) (prefix_of_stands hb) (by simpa)
    obtain ⟨y, hy⟩ := hb
    simp only [List.append_assoc, List.append_cancel_left_eq, List.cons_append, List.nil_append,
      List.cons.injEq, true_and] at hy
    exact hy ▸ List.mem_append_right t List.mem_cons_self

end

/-! ## where a text is found -/

section
variable {w a r s : List Char}

theorem exists_cutAt {b : List Char} (h : b ++ w <+: s) :
    ∃ a r, cutAt w s = some (a, r) ∧ a.length ≤ b.length := by
  induction s generalizing b with
  | nil =>
    obtain ⟨-, rfl⟩ := List.append_eq_nil_iff.1 (List.prefix_nil.1 h)
    exact ⟨[], [], rfl, Nat.zero_le _⟩
  | cons c s ih =>
    rw [cutAt]
    cases hafter : after? w (c :: s) with
    | some r => exact ⟨[], r, rfl, Nat.zero_le _⟩
    | none =>
      cases b with
      | nil =>
        obtain ⟨r, hr⟩ := h
        rw [← hr, List.nil_append, after?_append] at hafter
        cases hafter
      | cons d b =>
        obtain ⟨a, r, hcut, hle⟩ := ih (List.cons_prefix_cons.1 h).2
        exact ⟨c :: a, r, by simp [hcut], Nat.succ_le_succ hle⟩

theorem cutAt_eq_some_iff : cutAt w s = some (a, r) ↔ s = a ++ (w ++ r) ∧ First w a s := by
  have hfirst {a r : List Char} (h : cutAt w s = some (a, r)) : First w a s := by
    refine ⟨⟨r, (append_of_cutAt h).symm⟩, fun b hb => ?_⟩
    obtain ⟨a', r', hcut, hle⟩ := exists_cutAt hb
    cases h.symm.trans hcut
    exact hle
  constructor
  · intro h
    exact ⟨by rw [append_of_cutAt h, List.append_assoc], hfirst h⟩
  · rintro ⟨hs, ha⟩
    obtain ⟨a', r', hcut, -⟩ := exists_cutAt ha.stands
    obtain rfl := (hfirst hcut).unique ha
    have hs' := append_of_cutAt hcut
    rw [hs, List.append_assoc, List.append_cancel_left_eq, List.append_cancel_left_eq] at hs'
    rw [hcut, hs']

theorem cutAt_eq_none_iff : cutAt w s = none ↔ ∀ a, ¬a ++ w <+: s := by
  constructor
  · intro h a ha
    obtain ⟨a', r', hcut, -⟩ := exists_cutAt ha
    cases h.symm.trans hcut
  · intro h
    cases hcut : cutAt w s with
    | none => rfl
    | some c => exact absurd (cutAt_eq_some_iff.1 hcut).2.stands (h c.1)

theorem cutAt_singleton_eq_some_iff {c : Char} :
    cutAt [c] s = some (a, r) ↔ s = a ++ c :: r ∧ c ∉ a := by
  rw [cutAt_eq_some_iff, first_singleton_iff]
  constructor
  · rintro ⟨rfl, r', -, ha⟩
    exact ⟨rfl, ha⟩
  · rintro ⟨rfl, ha⟩
    exact ⟨rfl, r, rfl, ha⟩

theorem map_snd_cutAt_singleton (c : Char) (s : List Char) :
    (cutAt [c] s).map Prod.snd = match s.dropWhile (· ≠ c) with
      | [] => none
      | _ :: r => some r := by
  split
  · rename_i h
    rw [Option.map_eq_none_iff, cutAt_eq_none_iff]
    intro a ha
    have hc := List.dropWhile_eq_nil_iff.1 h c (ha.subset (by simp))
    simp at hc
  · rename_i d r h
    obtain ⟨a, rfl, ha⟩ := exists_dropWhile_ne h
    rw [cutAt_singleton_eq_some_iff.2 ⟨rfl, ha⟩]
    rfl

end

/-! ## from one mark to another -/

section
variable {c d : Char} {p q s t : List Char}

theorem firstTo_eq_some_iff :
    firstTo c d s = some t ↔
      ∃ p m, t = c :: (m ++ [d]) ∧ First [c] p s ∧ Last [d] (p ++ c :: m) s := by
  simp only [first_singleton_iff, last_singleton_iff]
  constructor
  · intro h
    obtain ⟨p, m, r, rfl, rfl, hp, hr⟩ := exists_of_firstTo h
    exact ⟨p, m, rfl, ⟨_, rfl, hp⟩, r, by simp, hr⟩
  · rintro ⟨p, m, rfl, ⟨-, -, hp⟩, r, rfl, hr⟩
    have h := firstTo_append hp hr m
    simpa using h

/-- a last mark behind the first one ends the stretch that begins there -/
theorem firstTo_of_lt (hp : First [c] p s) (hq : Last [d] q s) (h : p.length < q.length) :
    ∃ m r, s = p ++ (c :: (m ++ [d]) ++ r) ∧ q = p ++ c :: m ∧
      firstTo c d s = some (c :: (m ++ [d])) := by
  obtain ⟨m, rfl⟩ : p ++ [c] <+: q := by
    refine List.prefix_of_prefix_length_le hp.stands (prefix_of_stands hq.stands) ?_
    rw [List.length_append, List.length_singleton]
    omega
  rw [List.append_assoc, List.singleton_append] at hq ⊢
  obtain ⟨r, hr⟩ := hq.stands
  exact ⟨m, r, by simp [← hr], rfl, firstTo_eq_some_iff.2 ⟨p, m, rfl, hp, hq⟩⟩

theorem firstTo_eq_none_iff :
    firstTo c d s = none ↔ ∀ p q, First [c] p s → Last [d] q s → q.length ≤ p.length := by
  constructor
  · intro h p q hp hq
    refine Nat.le_of_not_lt fun hlt => ?_
    obtain ⟨m, r, -, -, hsome⟩ := firstTo_of_lt hp hq hlt
    cases h.symm.trans hsome
  · intro h
    cases hsome : firstTo c d s with
    | none => rfl
    | some t =>
      obtain ⟨p, m, -, hp, hq⟩ := firstTo_eq_some_iff.1 hsome
      have hle := h p (p ++ c :: m) hp hq
      rw [List.length_append, List.length_cons] at hle
      omega

end

end PromptDispatch.Text

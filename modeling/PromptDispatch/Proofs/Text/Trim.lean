import Mathlib.Data.List.TakeWhile
import PromptDispatch.Text.Blank

/-!
# What trimming leaves

A text is its trimmed text between blanks (`exists_trim`), and what stands between two characters
that are no blanks stays (`trim_append`).
-/

namespace PromptDispatch.Text

/-- not empty, and no blank at either end -/
structure Trimmed (s : List Char) : Prop where
  ne_nil : s ≠ []
  head : ∀ c ∈ s.head?, isBlank c = false
  last : ∀ c ∈ s.getLast?, isBlank c = false

theorem Trimmed.reverse {s : List Char} (h : Trimmed s) : Trimmed s.reverse :=
  ⟨fun e => h.ne_nil (List.reverse_eq_nil_iff.1 e),
    fun c hc => h.last c (by rwa [List.head?_reverse] at hc),
    fun c hc => h.head c (by rwa [List.getLast?_reverse] at hc)⟩

theorem Trimmed.bracket {c d : Char} (hc : isBlank c = false) (hd : isBlank d = false)
    (m : List Char) : Trimmed (c :: (m ++ [d])) := by
  refine ⟨List.cons_ne_nil _ _, fun e he => ?_, fun e he => ?_⟩
  · cases he
    exact hc
  · rw [← List.cons_append, List.getLast?_concat] at he
    cases he
    exact hd

theorem not_mem_of_blanks {c : Char} {s : List Char} (hc : isBlank c = false)
    (hs : ∀ d ∈ s, isBlank d = true) : c ∉ s := fun h =>
  Bool.false_ne_true (hc.symm.trans (hs c h))

theorem mem_trimStart {c : Char} {s : List Char} (h : c ∈ trimStart s) : c ∈ s :=
  (List.dropWhile_suffix isBlank).subset h

/-! ## one end -/

theorem exists_trimStart (s : List Char) :
    ∃ a, s = a ++ trimStart s ∧ ∀ c ∈ a, isBlank c = true :=
  ⟨s.takeWhile isBlank, List.takeWhile_append_dropWhile.symm, fun _ hc => List.mem_takeWhile_imp hc⟩

theorem head_trimStart {s : List Char} {c : Char} (hc : c ∈ (trimStart s).head?) :
    isBlank c = false := by
  have h := List.head?_dropWhile_not isBlank s
  rw [show (s.dropWhile isBlank).head? = some c from hc] at h
  exact h

theorem trimStart_of_blanks {a : List Char} (ha : ∀ c ∈ a, isBlank c = true) (s : List Char) :
    trimStart (a ++ s) = trimStart s :=
  List.dropWhile_append_of_pos ha

theorem trimStart_append {t : List Char} (ht : Trimmed t) (p s : List Char) :
    trimStart (p ++ (t ++ s)) = trimStart p ++ (t ++ s) := by
  have hs : trimStart (t ++ s) = t ++ s := by
    obtain ⟨c, t', rfl⟩ := List.exists_cons_of_ne_nil ht.ne_nil
    exact trimStart_cons_of_not_blank (ht.head c rfl) (t' ++ s)
  induction p with
  | nil => exact hs
  | cons c p ih =>
    cases hc : isBlank c with
    | true => rw [List.cons_append, trimStart_cons_of_blank hc, trimStart_cons_of_blank hc, ih]
    | false =>
      rw [List.cons_append, trimStart_cons_of_not_blank hc, trimStart_cons_of_not_blank hc,
        List.cons_append]

/-! ## both ends -/

theorem trimEnd_eq (s : List Char) : trimEnd s = (trimStart s.reverse).reverse := rfl

theorem mem_trimEnd {c : Char} {s : List Char} (h : c ∈ trimEnd s) : c ∈ s :=
  List.mem_reverse.1 (mem_trimStart (List.mem_reverse.1 h))

theorem exists_trimEnd (s : List Char) :
    ∃ b, s = trimEnd s ++ b ∧ ∀ c ∈ b, isBlank c = true := by
  obtain ⟨b, hb, hbb⟩ := exists_trimStart s.reverse
  refine ⟨b.reverse, ?_, fun c hc => hbb c (List.mem_reverse.1 hc)⟩
  rw [trimEnd_eq, ← List.reverse_append, ← hb, List.reverse_reverse]

theorem trim_append {t : List Char} (ht : Trimmed t) (p s : List Char) :
    trim (p ++ (t ++ s)) = trimStart p ++ (t ++ trimEnd s) := by
  rw [trim, trimStart_append ht, trimEnd_eq, trimEnd_eq]
  have h := trimStart_append ht.reverse s.reverse (trimStart p).reverse
  rw [show (trimStart p ++ (t ++ s)).reverse = s.reverse ++ (t.reverse ++ (trimStart p).reverse) by
    simp, h]
  simp

theorem trim_of_blanks {a b : List Char} (ha : ∀ c ∈ a, isBlank c = true)
    (hb : ∀ c ∈ b, isBlank c = true) {t : List Char} (ht : Trimmed t) :
    trim (a ++ (t ++ b)) = t := by
  have h₁ : trimStart a = [] := by simpa [trimStart_nil] using trimStart_of_blanks ha []
  have h₂ : trimEnd b = [] := by
    rw [trimEnd_eq, List.reverse_eq_nil_iff]
    simpa [trimStart_nil] using trimStart_of_blanks (a := b.reverse) (by simpa using hb) []
  rw [trim_append ht, h₁, h₂, List.append_nil, List.nil_append]

/-- a text is its trimmed text between blanks -/
theorem exists_trim (s : List Char) :
    ∃ a b, s = a ++ (trim s ++ b) ∧ (∀ c ∈ a, isBlank c = true) ∧ ∀ c ∈ b, isBlank c = true := by
  obtain ⟨a, ha, hab⟩ := exists_trimStart s
  obtain ⟨b, hb, hbb⟩ := exists_trimEnd (trimStart s)
  refine ⟨a, b, ?_, hab, hbb⟩
  rw [trim, ← hb, ← ha]

theorem exists_trim_append (s : List Char) :
    ∃ a b, (∀ r, s ++ r = a ++ (trim s ++ (b ++ r))) ∧ (∀ c ∈ a, isBlank c = true) ∧
      ∀ c ∈ b, isBlank c = true := by
  obtain ⟨a, b, hs, ha, hb⟩ := exists_trim s
  refine ⟨a, b, fun r => ?_, ha, hb⟩
  rw [← List.append_assoc (trim s), ← List.append_assoc a, ← hs]

theorem trimmed_trim {s : List Char} (h : trim s ≠ []) : Trimmed (trim s) := by
  obtain ⟨b, hb, -⟩ := exists_trimEnd (trimStart s)
  refine ⟨h, fun c hc => ?_, fun c hc => ?_⟩
  · refine head_trimStart (s := s) ?_
    rw [hb, Option.mem_def, List.head?_append]
    rw [show (trimEnd (trimStart s)).head? = some c from hc]
    rfl
  · rw [trim, trimEnd_eq, List.getLast?_reverse] at hc
    exact head_trimStart hc

theorem getLast?_trim {s : List Char} {c : Char} (h : s.getLast? = some c)
    (hc : isBlank c = false) : (trim s).getLast? = some c := by
  obtain ⟨a, b, hs, ha, hb⟩ := exists_trim s
  have hne {d : Char} (hd : isBlank d = true) : d ≠ c := fun e =>
    Bool.false_ne_true (hc.symm.trans (e ▸ hd))
  rw [hs, List.getLast?_append, List.getLast?_append] at h
  cases hl : b.getLast? with
  | some d =>
    rw [hl] at h
    exact absurd (Option.some.inj h) (hne (hb d (List.mem_of_getLast? hl)))
  | none =>
    rw [hl, Option.none_or] at h
    cases ht : (trim s).getLast? with
    | some d => rwa [ht] at h
    | none =>
      rw [ht, Option.none_or] at h
      exact absurd rfl (hne (ha c (List.mem_of_getLast? h)))

theorem trim_eq_self {s : List Char} (h : Trimmed s) : trim s = s := by
  have hnone : ∀ c ∈ ([] : List Char), isBlank c = true := fun c hc => absurd hc List.not_mem_nil
  simpa using trim_of_blanks hnone hnone h

theorem trim_trim (s : List Char) : trim (trim s) = trim s := by
  by_cases h : trim s = []
  · rw [h, trim_nil]
  · exact trim_eq_self (trimmed_trim h)

theorem trim_append_blanks (s : List Char) {b : List Char} (hb : ∀ c ∈ b, isBlank c = true)
    (h : trim s ≠ []) : trim (s ++ b) = trim s := by
  obtain ⟨a, a', hs, ha, ha'⟩ := exists_trim_append s
  rw [hs]
  exact trim_of_blanks ha (fun c hc => (List.mem_append.1 hc).elim (ha' c) (hb c)) (trimmed_trim h)

theorem trim_eq_nil_iff {s : List Char} : trim s = [] ↔ isBlankText s = true := by
  rw [isBlankText, List.all_eq_true]
  constructor
  · intro h
    obtain ⟨a, b, hs, ha, hb⟩ := exists_trim s
    rw [h, List.nil_append] at hs
    rw [hs]
    exact fun c hc => (List.mem_append.1 hc).elim (ha c) (hb c)
  · intro h
    have hstart : trimStart (s ++ []) = trimStart [] := trimStart_of_blanks h []
    rw [List.append_nil] at hstart
    rw [trim, hstart]
    rfl

theorem trim_ne_nil_iff {s : List Char} : trim s ≠ [] ↔ isBlankText s = false := by
  rw [ne_eq, trim_eq_nil_iff, Bool.not_eq_true]

theorem trim_append_of_blanks (s : List Char) {b : List Char} (hb : ∀ c ∈ b, isBlank c = true) :
    trim (s ++ b) = trim s := by
  by_cases h : trim s = []
  · rw [h, trim_eq_nil_iff, isBlankText, List.all_append, Bool.and_eq_true]
    exact ⟨trim_eq_nil_iff.1 h, List.all_eq_true.2 hb⟩
  · exact trim_append_blanks s hb h

theorem trim_around {a b : List Char} (ha : ∀ c ∈ a, isBlank c = true)
    (hb : ∀ c ∈ b, isBlank c = true) (s : List Char) : trim (a ++ (s ++ b)) = trim s := by
  rw [← trim_append_of_blanks s hb, trim, trim, trimStart_of_blanks ha]

end PromptDispatch.Text

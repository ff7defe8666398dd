import PromptDispatch.Arguments.Value
import PromptDispatch.Json.Numeral
import PromptDispatch.Proofs.Except

/-!
# Numbers of seconds

`IsSeconds` tells the texts that a timeout can be, and `exists_readSeconds_iff` that these are read
and no others.
-/

namespace PromptDispatch

/-- digits, perhaps after a plus sign, of a number below `2 ^ 64` -/
def IsSeconds (s : List Char) : Prop :=
  ∃ digits, digits ≠ [] ∧ (s = digits ∨ s = '+' :: digits) ∧ (∀ c ∈ digits, c.isDigit = true) ∧
    Numeral.ofDigits digits < UInt64.size

def pushDigits (n : Nat) (digits : List Char) : Nat :=
  digits.foldl (fun n c => n * 10 + Numeral.digitValue c) n

theorem le_pushDigits (n : Nat) (digits : List Char) : n ≤ pushDigits n digits := by
  induction digits generalizing n with
  | nil => exact Nat.le_refl n
  | cons c r ih =>
    have hstep : n ≤ n * 10 + Numeral.digitValue c := by omega
    exact Nat.le_trans hstep (ih _)

theorem pushDigit_eq_ok_iff {n m : Nat} {c : Char} :
    pushDigit n c = .ok m ↔
      c.isDigit = true ∧ n * 10 + Numeral.digitValue c = m ∧ m < UInt64.size := by
  rw [pushDigit]
  constructor
  · intro h
    split at h
    · cases h
    · rename_i hc
      dsimp only at h
      split at h
      · rename_i hlt
        cases h
        exact ⟨by simpa using hc, rfl, hlt⟩
      · cases h
  · rintro ⟨hc, rfl, hlt⟩
    rw [hc]
    exact if_pos hlt

theorem foldlM_pushDigit_eq_ok_iff {digits : List Char} {n m : Nat} (hn : n < UInt64.size) :
    digits.foldlM pushDigit n = .ok m ↔
      (∀ c ∈ digits, c.isDigit = true) ∧ pushDigits n digits = m ∧ m < UInt64.size := by
  induction digits generalizing n with
  | nil =>
    constructor
    · rintro ⟨⟩
      exact ⟨by simp, rfl, hn⟩
    · rintro ⟨-, rfl, -⟩
      rfl
  | cons c r ih =>
    rw [List.foldlM_cons, List.forall_mem_cons]
    constructor
    · intro h
      obtain ⟨k, hk, h⟩ := Except.bind_eq_ok_iff.1 h
      obtain ⟨hc, rfl, hlt⟩ := pushDigit_eq_ok_iff.1 hk
      obtain ⟨hr, hm, hsize⟩ := (ih hlt).1 h
      exact ⟨⟨hc, hr⟩, hm, hsize⟩
    · rintro ⟨⟨hc, hr⟩, hm, hsize⟩
      have hlt : n * 10 + Numeral.digitValue c < UInt64.size :=
        Nat.lt_of_le_of_lt (le_pushDigits _ r) (hm.symm ▸ hsize)
      exact Except.bind_eq_ok_iff.2
        ⟨_, pushDigit_eq_ok_iff.2 ⟨hc, rfl, hlt⟩, (ih hlt).2 ⟨hr, hm, hsize⟩⟩

def afterSign (s : List Char) : List Char :=
  match s with
  | '+' :: r => r
  | _ => s

theorem eq_afterSign (s : List Char) : s = afterSign s ∨ s = '+' :: afterSign s := by
  rw [afterSign.eq_def]
  split
  · exact .inr rfl
  · exact .inl rfl

theorem afterSign_digits {digits : List Char} (h : ∀ c ∈ digits, c.isDigit = true) :
    afterSign digits = digits := by
  rw [afterSign.eq_def]
  split
  · exact absurd (h '+' List.mem_cons_self) (by decide)
  · rfl

theorem readSeconds_eq (s : List Char) :
    readSeconds s =
      if s = [] then .error .emptyNumber
      else if afterSign s = [] then .error .notDigits
      else ((afterSign s).foldlM pushDigit 0).map UInt64.ofNat := rfl

theorem exists_readSeconds_iff {s : List Char} : (∃ n, readSeconds s = .ok n) ↔ IsSeconds s := by
  have hzero : 0 < UInt64.size := by decide
  rw [readSeconds_eq]
  constructor
  · rintro ⟨n, h⟩
    split at h
    · cases h
    · split at h
      · cases h
      · rename_i hnil
        obtain ⟨m, hm, -⟩ := Except.map_eq_ok_iff.1 h
        obtain ⟨hdigits, rfl, hlt⟩ := (foldlM_pushDigit_eq_ok_iff hzero).1 hm
        exact ⟨afterSign s, hnil, eq_afterSign s, hdigits, hlt⟩
  · rintro ⟨digits, hnil, hs, hdigits, hlt⟩
    have hfold : digits.foldlM pushDigit 0 = .ok (Numeral.ofDigits digits) :=
      (foldlM_pushDigit_eq_ok_iff hzero).2 ⟨hdigits, rfl, hlt⟩
    have hsign : afterSign s = digits := by
      rcases hs with rfl | rfl
      · exact afterSign_digits hdigits
      · rfl
    have hne : s ≠ [] := by
      rcases hs with rfl | rfl
      · exact hnil
      · exact List.cons_ne_nil _ _
    rw [if_neg hne, hsign, if_neg hnil, hfold]
    exact ⟨_, rfl⟩

end PromptDispatch

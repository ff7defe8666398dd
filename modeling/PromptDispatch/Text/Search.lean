/-!
# Finding one text inside another

`cutAt p s` cuts `s` around the first place where `p` stands: what is before it and what is after
it.  `firstTo c d s` is the stretch from the first `c` to the last `d`.
-/

namespace PromptDispatch.Text

/-! ## the first place -/

/-- the rest of `s` after the prefix `p` -/
def after? : List Char → List Char → Option (List Char)
  | [], s => some s
  | _ :: _, [] => none
  | p :: ps, c :: s => if p = c then after? ps s else none

theorem after?_eq_some_iff {p s r : List Char} : after? p s = some r ↔ s = p ++ r := by
  induction p generalizing s with
  | nil => simp [after?, eq_comm]
  | cons a p ih =>
    cases s with
    | nil => simp [after?]
    | cons c s =>
      rw [after?]
      split
      · rename_i h
        subst h
        simp [ih]
      · rename_i h
        simp [Ne.symm h]

/-- what is before the first place where `p` stands, and what is after it -/
def cutAt (p : List Char) : List Char → Option (List Char × List Char)
  | [] => (after? p []).map ([], ·)
  | c :: s =>
    match after? p (c :: s) with
    | some r => some ([], r)
    | none => (cutAt p s).map fun (a, b) => (c :: a, b)

theorem append_of_cutAt {p s a b : List Char} (h : cutAt p s = some (a, b)) :
    s = a ++ p ++ b := by
  induction s generalizing a with
  | nil =>
    simp only [cutAt, Option.map_eq_some_iff, Prod.mk.injEq] at h
    obtain ⟨r, hr, rfl, rfl⟩ := h
    simpa using after?_eq_some_iff.1 hr
  | cons c s ih =>
    rw [cutAt] at h
    split at h
    · rename_i r hr
      simp only [Option.some.injEq, Prod.mk.injEq] at h
      obtain ⟨rfl, rfl⟩ := h
      simpa using after?_eq_some_iff.1 hr
    · simp only [Option.map_eq_some_iff, Prod.mk.injEq, Prod.exists] at h
      obtain ⟨a', b', h', rfl, rfl⟩ := h
      simp [ih h']

/-! ## from one mark to another -/

/-- the text up to and with the last `c` -/
def upToLast (c : Char) (s : List Char) : List Char :=
  (s.reverse.dropWhile (· ≠ c)).reverse

/-- the stretch from the first `c` to the last `d`, both with it, if the `d` comes later -/
def firstTo (c d : Char) (s : List Char) : Option (List Char) :=
  match s.dropWhile (· ≠ c) with
  | [] => none
  | _ :: r =>
    match upToLast d r with
    | [] => none
    | k => some (c :: k)

end PromptDispatch.Text

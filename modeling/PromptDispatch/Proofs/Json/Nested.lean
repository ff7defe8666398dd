import PromptDispatch.Proofs.Json.Between

/-!
# A JSON text inside another one

Frames around a text do not change how it is read, so that a whole text is read in the place of a
value just as it is read alone.

* `State.under`, `State.run_under`   a reading with more frames around it;
* `State.run_value`                  a whole text in the place of a value;
* `State.eq_start_of_run`            what leaves a reading at the start;
* `State.run_object`                 an object's text after any token of another text.
-/

namespace PromptDispatch.Json

namespace State

/-! ## frames around a text -/

/-- the state with the frames `k` around it; in them a whole text ends as a value does -/
def under (k : List Frame) (st : State) : State :=
  match st.mode with
  | .root v => place v (st.frames ++ k)
  | m => ⟨m, st.frames ++ k⟩

theorem under_place (v : Tree) (f k : List Frame) : (place v f).under k = place v (f ++ k) := by
  cases f with
  | nil => rfl
  | cons g f => cases g <;> rfl

theorem isBetween_under {st : State} (h : st.isBetween = true) (k : List Frame) :
    (st.under k).isBetween = true := by
  obtain ⟨m, f⟩ := st
  cases m with
  | root v => exact isBetween_place v (f ++ k)
  | _ => exact h

theorem Reads.under {st st' : State} {c : Char} (h : Reads st c st') (k : List Frame) :
    Reads (st.under k) c (st'.under k) := by
  induction h with
  | space h hc => exact .space (isBetween_under h k) hc
  | openObject f => exact .openObject (f ++ k)
  | openArray f => exact .openArray (f ++ k)
  | openString f => exact .openString (f ++ k)
  | openWord f h => exact .openWord (f ++ k) h
  | openNumeral f h => exact .openNumeral (f ++ k) h
  | firstItem hc _ ih => exact .firstItem hc ih
  | noItems f =>
    rw [under_place]
    exact .noItems (f ++ k)
  | nextItem before f => exact .nextItem before (f ++ k)
  | closeArray before f =>
    rw [under_place]
    exact .closeArray before (f ++ k)
  | firstName f => exact .firstName (f ++ k)
  | noMembers f =>
    rw [under_place]
    exact .noMembers (f ++ k)
  | nextName before f => exact .nextName before (f ++ k)
  | inName before f hc h => exact .inName before (f ++ k) hc h
  | closeName before f h => exact .closeName before (f ++ k) h
  | member before name f => exact .member before name (f ++ k)
  | nextMember before f => exact .nextMember before (f ++ k)
  | closeObject before f =>
    rw [under_place]
    exact .closeObject before (f ++ k)
  | inString f hc h => exact .inString (f ++ k) hc h
  | closeString f h =>
    rw [under_place]
    exact .closeString (f ++ k) h
  | inNumeral lexeme f h => exact .inNumeral lexeme (f ++ k) h
  | endNumeral hp hc _ ih =>
    rw [under_place] at ih
    exact .endNumeral hp hc ih
  | inWord v f h => exact .inWord v (f ++ k) h
  | closeWord c v f =>
    rw [under_place]
    exact .closeWord c v (f ++ k)

theorem run_under {st st' : State} {s : List Char} (h : st.run s = some st') (k : List Frame) :
    (st.under k).run s = some (st'.under k) := by
  induction s generalizing st with
  | nil =>
    cases h
    rfl
  | cons c s ih =>
    obtain ⟨st₁, h₁, h⟩ := run_cons_eq_some_iff.1 h
    exact run_cons_eq_some_iff.2 ⟨st₁.under k, h₁.under k, ih h⟩

theorem run_value {s : List Char} {v : Tree} (h : start.run s = some ⟨.root v, []⟩)
    (k : List Frame) : (⟨.value, k⟩ : State).run s = some (place v k) :=
  run_under h k

/-! ## the start -/

theorem place_ne_start (v : Tree) (k : List Frame) : place v k ≠ start := by
  intro h
  cases k with
  | nil => cases h
  | cons f k => cases f <;> cases h

theorem Reads.eq_start {st st' : State} {c : Char} (h : Reads st c st') (hst : st' = start) :
    st = start ∧ isSpace c = true := by
  induction h with
  | space _ hc => exact ⟨hst, hc⟩
  | firstItem _ _ ih => cases (ih hst).1
  | endNumeral _ _ _ ih => exact absurd (ih hst).1 (place_ne_start _ _)
  | noItems | closeArray | noMembers | closeObject | closeString | closeWord =>
    exact absurd hst (place_ne_start _ _)
  | _ => cases hst

theorem eq_start_of_run {st : State} {s : List Char} (h : st.run s = some start) :
    st = start ∧ ∀ c ∈ s, isSpace c = true := by
  induction s generalizing st with
  | nil =>
    cases h
    exact ⟨rfl, fun c hc => absurd hc List.not_mem_nil⟩
  | cons c s ih =>
    obtain ⟨st₁, h₁, h⟩ := run_cons_eq_some_iff.1 h
    obtain ⟨hst, hs⟩ := ih h
    obtain ⟨hst, hc⟩ := h₁.eq_start hst
    exact ⟨hst, fun d hd => (List.mem_cons.1 hd).elim (fun e => e ▸ hc) (hs d)⟩

/-- between tokens a brace opens a value, the whole one only at the start -/
theorem Reads.open_brace {st st' : State} (h : Reads st '{' st') (hb : st.isBetween = true) :
    ∃ k, Reads ⟨.value, k⟩ '{' st' ∧ (k = [] → st = start) := by
  cases h with
  | space _ hc => cases hc
  | openObject k => exact ⟨k, .openObject k, fun e => e ▸ rfl⟩
  | firstItem _ h => exact ⟨_, h, fun e => nomatch e⟩
  | openWord _ h => simp [words] at h
  | openNumeral _ h => cases h
  | inName _ _ _ _ | inString _ _ _ | inNumeral _ _ _ | endNumeral _ _ _ | inWord _ _ _
  | closeWord _ _ _ => exact absurd hb Bool.false_ne_true

/-- a text that is one object, read between two tokens of another text -/
theorem run_object {st st' : State} {s r : List Char} {v : Tree} (hb : st.isBetween = true)
    (hs : start.run ('{' :: s) = some ⟨.root v, []⟩) (h : st.run ('{' :: s ++ r) = some st') :
    ∃ k, (place v k).run r = some st' ∧ (k = [] → st = start) := by
  rw [List.cons_append] at h
  obtain ⟨st₁, h₁, h⟩ := run_cons_eq_some_iff.1 h
  obtain ⟨k, hk, hst⟩ := h₁.open_brace hb
  have hv := run_value hs k
  rw [run_cons, hk.step_eq, Option.bind_some] at hv
  rw [run_append, hv, Option.bind_some] at h
  exact ⟨k, h, hst⟩

end State

end PromptDispatch.Json

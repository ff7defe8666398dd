import PromptDispatch.Json.Reader
import PromptDispatch.Proofs.Json.Nested
import PromptDispatch.Proofs.Text.Trim

/-!
# Texts that are one object

`IsObject s v` says that `s` is the text of the object `v` from its first brace to its last.  Such a
text stands inside of another JSON text only as a value of it.

* `State.inObject`          the outermost container is an object;
* `isObject_trim`           the trimmed text of an object is one;
* `IsObject.eq_nil_of_append`   no object goes on after its last brace;
* `IsObject.run_after_newline`   an object after a line feed in another text.
-/

namespace PromptDispatch.Json

/-! ## the outermost container -/

/-- outside of the values of an object's members -/
def Mode.ofObject : Mode → Bool
  | .firstName | .nextName _ | .name _ _ | .colon _ _ | .afterMember _ | .root (.object _) => true
  | _ => false

namespace State

def outermost : Mode → List Frame → Bool
  | m, [] => m.ofObject
  | _, .items before :: k => outermost (.afterItem before) k
  | _, .member before _ :: k => outermost (.afterMember before) k

def inObject (st : State) : Bool := outermost st.mode st.frames

theorem inObject_congr {m m' : Mode} (h : m.ofObject = m'.ofObject) (k : List Frame) :
    inObject ⟨m, k⟩ = inObject ⟨m', k⟩ := by
  cases k with
  | nil => exact h
  | cons f k => cases f <;> rfl

/-- around a value that is not the whole text the mode does not count -/
theorem inObject_of_ne_start {m m' : Mode} {k : List Frame} (h : (⟨.value, k⟩ : State) ≠ start) :
    inObject ⟨m, k⟩ = inObject ⟨m', k⟩ := by
  cases k with
  | nil => exact absurd rfl h
  | cons f k => cases f <;> rfl

theorem inObject_place {v : Tree} {m : Mode} (h : (Mode.root v).ofObject = m.ofObject)
    (k : List Frame) : (place v k).inObject = inObject ⟨m, k⟩ := by
  cases k with
  | nil => exact h
  | cons f k =>
    cases f with
    | items before =>
      show inObject ⟨.afterItem (v :: before), k⟩ = inObject ⟨.afterItem before, k⟩
      exact inObject_congr (by rfl) k
    | member before name =>
      show inObject ⟨.afterMember ((name, v) :: before), k⟩ = inObject ⟨.afterMember before, k⟩
      exact inObject_congr (by rfl) k

theorem Reads.inObject {st st' : State} {c : Char} (h : Reads st c st') (hs : st.Sound)
    (hst : st ≠ start) : st'.inObject = st.inObject := by
  induction h with
  | space _ _ | nextItem _ _ => rfl
  | openObject _ | openArray _ | openString _ | openWord _ _ | openNumeral _ _ =>
    exact inObject_of_ne_start hst
  | @firstItem _ k _ _ _ ih =>
    rw [ih trivial (fun e => nomatch e)]
    show State.inObject ⟨.afterItem [], k⟩ = _
    exact inObject_congr (by rfl) k
  | member before name k =>
    show State.inObject ⟨.afterMember before, k⟩ = _
    exact inObject_congr (by rfl) k
  | noItems k | closeArray _ k | noMembers k | closeObject _ k | closeString k _ =>
    exact inObject_place (by rfl) k
  | endNumeral _ _ _ ih =>
    rw [ih (sound_place _ _) (place_ne_start _ _)]
    exact inObject_place (by rfl) _
  | closeWord c v k =>
    obtain ⟨-, hv⟩ := hs
    cases v with
    | object _ => cases hv
    | _ => exact inObject_place (by rfl) k
  | _ => exact inObject_congr (by rfl) _

theorem run_inObject {st st' : State} {s : List Char} (h : st.run s = some st') (hs : st.Sound)
    (hst : st ≠ start) : st'.inObject = st.inObject := by
  have hreads {st₁ st₂ : State} {c : Char}
      (hi : st₁.Sound ∧ st₁ ≠ start ∧ st₁.inObject = st.inObject) (hr : Reads st₁ c st₂) :
      st₂.Sound ∧ st₂ ≠ start ∧ st₂.inObject = st.inObject := by
    obtain ⟨hs, hne, hin⟩ := hi
    exact ⟨hs.reads hr, fun e => hne (hr.eq_start e).1, (hr.inObject hs hne).trans hin⟩
  exact (run_preserves hreads ⟨hs, hst, rfl⟩ h).2.2

theorem eq_brace_of_run {c : Char} {s : List Char} {ms : List (Option (List Char) × Tree)}
    (h : start.run (c :: s) = some ⟨.root (.object ms), []⟩) (hc : isSpace c = false) :
    c = '{' := by
  obtain ⟨st, hr, h⟩ := run_cons_eq_some_iff.1 h
  have hst : st ≠ start := fun e => Bool.false_ne_true (hc.symm.trans (hr.eq_start e).2)
  have hin := run_inObject h (sound_start.reads hr) hst
  cases hr with
  | space _ hs => exact absurd rfl hst
  | openObject _ => rfl
  | openArray _ | openString _ | openWord _ _ | openNumeral _ _ => cases hin

/-! ## the end of an object -/

theorem place_eq_root {v w : Tree} {k : List Frame} (h : place v k = ⟨.root w, []⟩) :
    k = [] ∧ v = w := by
  cases k with
  | nil =>
    cases h
    exact ⟨rfl, rfl⟩
  | cons f k => cases f <;> cases h

theorem Reads.eq_root {st st' : State} {c : Char} {ms : List (Option (List Char) × Tree)}
    (h : Reads st c st') (hs : st.Sound) (hst : st' = ⟨.root (.object ms), []⟩) (hc : c ≠ '}') :
    st = st' := by
  induction h with
  | space _ _ => rfl
  | firstItem _ _ ih => cases (ih trivial hst hc).trans hst
  | endNumeral _ _ _ ih =>
    cases (place_eq_root ((ih (sound_place _ _) hst hc).trans hst)).2
  | noMembers | closeObject => exact absurd rfl hc
  | noItems | closeArray | closeString => cases (place_eq_root hst).2
  | closeWord _ v k =>
    obtain ⟨-, rfl⟩ := place_eq_root hst
    cases hs.2
  | _ => cases hst

theorem run_root {v : Tree} {k : List Frame} {s : List Char} {st : State}
    (h : (⟨.root v, k⟩ : State).run s = some st) : ∀ c ∈ s, isSpace c = true := by
  induction s with
  | nil => exact fun c hc => absurd hc List.not_mem_nil
  | cons c s ih =>
    obtain ⟨st₁, h₁, h⟩ := run_cons_eq_some_iff.1 h
    cases h₁ with
    | space _ hc => exact fun d hd => (List.mem_cons.1 hd).elim (fun e => e ▸ hc) (ih h d)

theorem run_of_append_blanks {s b : List Char} {ms : List (Option (List Char) × Tree)}
    (h : start.run (s ++ b) = some ⟨.root (.object ms), []⟩)
    (hb : ∀ c ∈ b, Text.isBlank c = true) : start.run s = some ⟨.root (.object ms), []⟩ := by
  induction b generalizing s with
  | nil => simpa using h
  | cons c b ih =>
    have h₁ : start.run (s ++ [c]) = some ⟨.root (.object ms), []⟩ :=
      ih (by simpa using h) fun d hd => hb d (List.mem_cons_of_mem c hd)
    obtain ⟨st, hst, h₁⟩ := run_append_eq_some_iff.1 h₁
    obtain ⟨st', hst', h₁⟩ := run_cons_eq_some_iff.1 h₁
    cases h₁
    have hc : c ≠ '}' := by
      rintro rfl
      exact Bool.false_ne_true (hb _ List.mem_cons_self)
    rw [hst, hst'.eq_root (sound_start.run hst) rfl hc]

theorem eq_brace_of_run_concat {s : List Char} {c : Char}
    {ms : List (Option (List Char) × Tree)}
    (h : start.run (s ++ [c]) = some ⟨.root (.object ms), []⟩) (hc : isSpace c = false) :
    c = '}' := by
  obtain ⟨st, hst, h⟩ := run_append_eq_some_iff.1 h
  have h' := h
  obtain ⟨st', hst', h⟩ := run_cons_eq_some_iff.1 h
  cases h
  by_cases hc' : c = '}'
  · exact hc'
  · rw [hst'.eq_root (sound_start.run hst) rfl hc'] at h'
    exact absurd (hc.symm.trans (run_root h' c List.mem_cons_self)) Bool.false_ne_true

end State

/-! ## the text of an object -/

/-- `s` is one object with the value `v`, from its first brace to its last -/
structure IsObject (s : List Char) (v : Json) : Prop where
  parse : parseObject s = some v
  braces : ∃ m, s = '{' :: (m ++ ['}'])

theorem parseObject_congr {s t : List Char} (h : State.start.run s = State.start.run t) :
    parseObject s = parseObject t := by
  rw [parseObject, parseObject, Json.parse, Json.parse, Tree.read?, Tree.read?, h]

/-- only a tree with braces writes an object -/
theorem object_of_ofTree? {t : Tree} {v : Json} (h : ofTree? t = some v)
    (hv : v.isObject = true) : ∃ ms, t = .object ms := by
  cases t with
  | object ms => exact ⟨ms, rfl⟩
  | null | bool _ =>
    cases h
    cases hv
  | numeral _ | string _ | array _ =>
    obtain ⟨w, -, rfl⟩ := Option.map_eq_some_iff.1 h
    cases hv

theorem State.eq_root_of_value? {st : State} {t : Tree} (hs : st.Sound) (h : st.value? = some t)
    (ht : t.isContainer = true) : st = ⟨.root t, []⟩ := by
  obtain ⟨m, k⟩ := st
  cases m with
  | root w =>
    cases h
    obtain rfl : k = [] := hs
    rfl
  | numeral p lexeme =>
    cases k with
    | nil =>
      simp only [State.value?] at h
      split at h
      · cases h
        cases ht
      · cases h
    | cons _ _ => cases h
  | _ => cases h

theorem run_of_parseObject {s : List Char} {v : Json} (h : parseObject s = some v) :
    ∃ ms, State.start.run s = some ⟨.root (.object ms), []⟩ := by
  obtain ⟨hp, hv⟩ := parseObject_eq_some_iff.1 h
  obtain ⟨t, ht, hd⟩ := Option.bind_eq_some_iff.1 hp
  obtain ⟨st, hst, hr⟩ := Option.bind_eq_some_iff.1 ht
  have ho : ofTree? t = some v := by
    split at hd
    · exact hd
    · cases hd
  obtain ⟨ms, rfl⟩ := object_of_ofTree? ho hv
  exact ⟨ms, hst.trans (congrArg some (State.eq_root_of_value? (State.sound_start.run hst) hr rfl))⟩

theorem isObject_trim {s : List Char} {v : Json} (h : parseObject s = some v) :
    IsObject (Text.trim s) v := by
  obtain ⟨ms, hr⟩ := run_of_parseObject h
  obtain ⟨a, b, hs, ha, hb⟩ := Text.exists_trim s
  have hrun : State.start.run (Text.trim s) = some ⟨.root (.object ms), []⟩ := by
    rw [hs] at hr
    exact State.run_of_append_blanks (State.run_of_blanks rfl ha hr).2 hb
  refine ⟨(parseObject_congr (hrun.trans hr.symm)).trans h, ?_⟩
  have hne : Text.trim s ≠ [] := by
    intro e
    rw [e] at hrun
    cases hrun
  have ht := Text.trimmed_trim hne
  obtain ⟨c, t, e⟩ := List.exists_cons_of_ne_nil hne
  rw [e] at ht hrun ⊢
  obtain rfl := State.eq_brace_of_run hrun (not_isSpace_of_not_isBlank (ht.head c rfl))
  rcases List.eq_nil_or_concat t with rfl | ⟨m, d, rfl⟩
  · cases hrun
  · rw [List.concat_eq_append, ← List.cons_append] at hrun ht
    have hd := not_isSpace_of_not_isBlank (ht.last d List.getLast?_concat)
    obtain rfl := State.eq_brace_of_run_concat hrun hd
    exact ⟨m, by rw [List.concat_eq_append]⟩

theorem isObject_of_trim {s : List Char} {v : Json} (h : parseObject (Text.trim s) = some v) :
    IsObject (Text.trim s) v := by
  have ht := isObject_trim h
  rwa [Text.trim_trim] at ht

namespace IsObject

variable {s : List Char} {v : Json}

theorem trimmed (h : IsObject s v) : Text.Trimmed s := by
  obtain ⟨m, rfl⟩ := h.braces
  exact Text.Trimmed.bracket rfl rfl m

theorem run (h : IsObject s v) : ∃ ms, State.start.run s = some ⟨.root (.object ms), []⟩ :=
  run_of_parseObject h.parse

theorem eq_nil_of_blanks {x y : List Char} (h : IsObject (x ++ y) v)
    (hy : ∀ c ∈ y, Text.isBlank c = true) : y = [] := by
  rcases List.eq_nil_or_concat y with rfl | ⟨y', c, rfl⟩
  · rfl
  · rw [List.concat_eq_append] at h hy
    have hc := h.trimmed.last c (by rw [← List.append_assoc, List.getLast?_concat]; rfl)
    rw [hy c (List.mem_append_right y' List.mem_cons_self)] at hc
    cases hc

/-- an object ends with its last brace -/
theorem eq_nil_of_append {r : List Char} {w : Json} (h : IsObject s v) (hr : IsObject (s ++ r) w) :
    r = [] := by
  obtain ⟨ms, hs⟩ := h.run
  obtain ⟨ns, hsr⟩ := hr.run
  rw [State.run_append, hs] at hsr
  exact hr.eq_nil_of_blanks fun c hc => isBlank_of_isSpace (State.run_root hsr c hc)

/-- an object on a new line of another text is a value of that text -/
theorem run_after_newline {x b r : List Char} {st : State} (h : IsObject s v)
    (hb : ∀ c ∈ b, Text.isBlank c = true)
    (hr : State.start.run (x ++ '\n' :: (b ++ (s ++ r))) = some st) (hst : ¬st.Spoilt) :
    ∃ t k, (State.place t k).run r = some st ∧ (k = [] → ∀ c ∈ x, isSpace c = true) := by
  obtain ⟨st₁, hx, hbt, hr⟩ := State.exists_between_of_newline hr hst
  obtain ⟨-, hr⟩ := State.run_of_blanks hbt hb hr
  obtain ⟨ms, hs⟩ := h.run
  obtain ⟨m, rfl⟩ := h.braces
  obtain ⟨k, hk, hstart⟩ := State.run_object hbt hs hr
  refine ⟨_, k, hk, fun e c hc => ?_⟩
  rw [hstart e] at hx
  exact (State.eq_start_of_run hx).2 c (List.mem_append_left _ hc)

end IsObject

end PromptDispatch.Json

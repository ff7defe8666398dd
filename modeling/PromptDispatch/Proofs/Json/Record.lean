import PromptDispatch.Json.Record
import PromptDispatch.Proofs.Json.Object

/-!
# Records among the JSON texts

The reader of records skips what the grammar reads to a tree, and stops in the middle of a text that
cannot become a record any more.  It takes exactly the texts whose trees are records, so that it
agrees with the reader of values wherever that has an answer.

* `State.suits`                what a record can still become of;
* `State.Reads.suits`          how one step changes that;
* `record_eq_ok_iff`           the texts that are records;
* `record_eq_ok_iff_of_parse`  the same, of a text that has a value.
-/

namespace PromptDispatch.Json

variable {scalars : Bool}

/-! ## trees of records -/

def named (members : List (Option (List Char) × Tree)) : Bool := members.all (·.1.isSome)

/-- an object whose names are texts, or an array without items -/
def Tree.isRecord : Tree → Bool
  | .array items => items.isEmpty
  | .object members => named members
  | _ => false

theorem Tree.isContainer_of_isRecord {t : Tree} (h : t.isRecord = true) : t.isContainer = true := by
  cases t with
  | array _ | object _ => rfl
  | _ => cases h

theorem named_cons (name : Option (List Char)) (t : Tree)
    (members : List (Option (List Char) × Tree)) :
    named ((name, t) :: members) = (named members && name.isSome) :=
  Bool.and_comm _ _

theorem named_reverse (members : List (Option (List Char) × Tree)) :
    named members.reverse = named members :=
  List.all_reverse

/-! ## states that can become records -/

/-- what a record has outside of its members' values, and `scalars` for a scalar in its place -/
def Mode.suits (scalars : Bool) : Mode → Bool
  | .value | .firstItem | .firstName => true
  | .afterItem before => before.isEmpty
  | .nextName before | .afterMember before => named before
  | .name before s => named before && s.sound
  | .colon before n => named before && n.isSome
  | .string _ | .numeral _ _ | .word _ _ => scalars
  | .root t => t.isRecord || (scalars && !t.isContainer)

def Frame.suits : Frame → Bool
  | .items _ => false
  | .member before name => named before && name.isSome

namespace State

/-- nothing that is read forbids a record, or a scalar if there may be one in its place -/
def suits (scalars : Bool) (st : State) : Bool :=
  match st.frames.getLast? with
  | none => st.mode.suits scalars
  | some f => f.suits

variable {st st' : State} {c : Char} {s : List Char}

theorem exists_outermost (f : Frame) (k : List Frame) : ∃ g, (f :: k).getLast? = some g :=
  ⟨_, List.getLast?_cons⟩

theorem suits_of_outermost {f : Frame} (h : st.frames.getLast? = some f) :
    st.suits scalars = f.suits := by
  rw [suits, h]

theorem suits_congr {m m' : Mode} {k : List Frame} (h : k = [] → m.suits scalars = m'.suits scalars) :
    suits scalars ⟨m, k⟩ = suits scalars ⟨m', k⟩ := by
  cases k with
  | nil => exact h rfl
  | cons f k =>
    obtain ⟨g, hg⟩ := exists_outermost f k
    rw [suits_of_outermost hg, suits_of_outermost hg]

/-- only the outermost frame counts -/
theorem suits_cons (m m' : Mode) (f : Frame) {k : List Frame} (h : k ≠ []) :
    suits scalars ⟨m, f :: k⟩ = suits scalars ⟨m', k⟩ := by
  obtain ⟨g, k, rfl⟩ := List.exists_cons_of_ne_nil h
  obtain ⟨o, ho⟩ := exists_outermost g k
  have ho' : (f :: g :: k).getLast? = some o := by rw [List.getLast?_cons_cons, ho]
  rw [suits_of_outermost ho, suits_of_outermost ho']

theorem suits_place {v : Tree} {m : Mode} {k : List Frame}
    (h : (Mode.root v).suits scalars = m.suits scalars) :
    (place v k).suits scalars = suits scalars ⟨m, k⟩ := by
  cases k with
  | nil => exact h
  | cons f k =>
    by_cases hk : k = []
    · subst hk
      cases f with
      | items before => rfl
      | member before name =>
        show named ((name, v) :: before) = _
        rw [named_cons]
        rfl
    · rw [suits_cons m (.root v) f hk]
      cases f with
      | items before => exact suits_congr fun e => absurd e hk
      | member before name => exact suits_congr fun e => absurd e hk

theorem suits_root_of_scalar {v : Tree} (h : v.isContainer = false) :
    (Mode.root v).suits scalars = scalars := by
  have hrecord : v.isRecord = false := by
    cases hv : v.isRecord with
    | false => rfl
    | true => exact absurd (h.symm.trans (Tree.isContainer_of_isRecord hv)) Bool.false_ne_true
  rw [Mode.suits, hrecord, h, Bool.not_false, Bool.and_true, Bool.false_or]

theorem frames_of_value {m : Mode} {k : List Frame} (hm : m = .value)
    (h : Reads ⟨m, k⟩ c st') : st'.frames = k := by
  subst hm
  cases h <;> rfl

end State

/-! ## strings -/

namespace StringPart

variable {s s' : StringPart} {c : Char}

theorem sound_unit (s : StringPart) (n : Nat) (h : (s.unit n).sound = true) : s.sound = true := by
  rw [unit] at h
  split at h
  · exact h
  split at h
  · cases h
  · exact h

theorem sound_secondUnit (s : StringPart) (high n : Nat) (h : (s.secondUnit high n).sound = true) :
    s.sound = true := by
  rw [secondUnit] at h
  split at h
  · exact h
  · exact absurd (sound_unit _ n h) Bool.false_ne_true

theorem sound_plain (h : s.plain c = some s') : s'.sound = s.sound := by
  rw [plain] at h
  split at h
  · cases h
    rfl
  split at h
  · cases h
  · cases h
    rfl

theorem sound_escape (h : s.escape c = some s') : s'.sound = s.sound := by
  rw [escape] at h
  split at h
  · cases h
    rfl
  · obtain ⟨d, -, rfl⟩ := Option.map_eq_some_iff.1 h
    rfl

/-- half of a surrogate pair that stands alone is never made good -/
theorem sound_of_step (h : s.step c = some s') (hs : s'.sound = true) : s.sound = true := by
  obtain ⟨text, sound, part⟩ := s
  cases part with
  | plain => exact (sound_plain h).symm.trans hs
  | backslash => exact (sound_escape h).symm.trans hs
  | hex seen =>
    simp only [step] at h
    split at h
    · cases h
      exact hs
    · obtain ⟨n, -, rfl⟩ := Option.map_eq_some_iff.1 h
      exact sound_unit _ n hs
  | half high =>
    simp only [step] at h
    split at h
    · cases h
      exact hs
    · exact absurd ((sound_plain h).symm.trans hs) Bool.false_ne_true
  | halfBackslash high =>
    simp only [step] at h
    split at h
    · cases h
      exact hs
    · exact absurd ((sound_escape h).symm.trans hs) Bool.false_ne_true
  | halfHex high seen =>
    simp only [step] at h
    split at h
    · cases h
      exact hs
    · obtain ⟨n, -, rfl⟩ := Option.map_eq_some_iff.1 h
      exact sound_secondUnit _ high n hs

theorem sound_of_result (h : s.result.isSome = true) : s.sound = true := by
  rw [result] at h
  split at h
  · exact And.left ‹_›
  · cases h

end StringPart

namespace State

variable {st st' : State} {c : Char} {s : List Char}

/-- The second state suits what the first one does, or it suits nothing any more: it is unfit for a
record, or a scalar has begun that may not stand in its place. -/
def Follows (scalars : Bool) (st st' : State) : Prop :=
  st'.suits scalars = st.suits scalars ∨
    st'.suits scalars = false ∧ (st'.unfit = true ∨ scalars = false)

namespace Follows

variable {m m' : Mode} {k : List Frame}

theorem congr (h : m'.suits scalars = m.suits scalars) : Follows scalars ⟨m, k⟩ ⟨m', k⟩ :=
  .inl (suits_congr fun _ => h)

/-- further inside the mode does not count -/
theorem of_outermost (h : Follows scalars ⟨m, []⟩ ⟨m', []⟩) : Follows scalars ⟨m, k⟩ ⟨m', k⟩ := by
  cases k with
  | nil => exact h
  | cons f k => exact .inl (suits_congr nofun)

theorem place {v : Tree} (h : (Mode.root v).suits scalars = m.suits scalars) :
    Follows scalars ⟨m, k⟩ (State.place v k) :=
  .inl (suits_place h)

theorem scalar (hm : m.suits scalars = scalars) : Follows scalars ⟨.value, k⟩ ⟨m, k⟩ := by
  apply of_outermost
  cases scalars with
  | false => exact .inr ⟨hm, .inr rfl⟩
  | true => exact .congr hm

theorem item (m m' : Mode) (before : List Tree) (k : List Frame) :
    Follows scalars ⟨m, k⟩ ⟨m', .items before :: k⟩ := by
  by_cases hk : k = []
  · subst hk
    exact .inr ⟨rfl, .inl rfl⟩
  · exact .inl (suits_cons m' m _ hk)

theorem member (before : List (Option (List Char) × Tree)) (name : Option (List Char))
    (k : List Frame) :
    Follows scalars ⟨.colon before name, k⟩ ⟨.value, .member before name :: k⟩ := by
  by_cases hk : k = []
  · subst hk
    exact .inl rfl
  · exact .inl (suits_cons _ _ _ hk)

/-! Half of a surrogate pair may only stand alone in a name that is not outermost. -/

variable {before : List (Option (List Char) × Tree)} {s s' : StringPart}

theorem inName (h : s.step c = some s') :
    Follows scalars ⟨.name before s, k⟩ ⟨.name before s', k⟩ := by
  apply of_outermost
  cases hs' : s'.sound with
  | false =>
    refine .inr ⟨?_, .inl ?_⟩
    · show (named before && s'.sound) = false
      rw [hs', Bool.and_false]
    · show (!s'.sound) = true
      rw [hs', Bool.not_false]
  | true =>
    apply congr
    rw [Mode.suits, Mode.suits, hs', StringPart.sound_of_step h hs']

theorem closeName : Follows scalars ⟨.name before s, k⟩ ⟨.colon before s.result, k⟩ := by
  apply of_outermost
  cases hr : s.result with
  | none =>
    refine .inr ⟨?_, .inl rfl⟩
    show (named before && false) = false
    exact Bool.and_false _
  | some name =>
    have hs : s.sound = true := StringPart.sound_of_result (hr ▸ rfl)
    apply congr
    rw [Mode.suits, Mode.suits, hs, Option.isSome_some]

end Follows

theorem suits_root_array (before : List Tree) :
    (Mode.root (.array before.reverse)).suits scalars = (Mode.afterItem before).suits scalars := by
  simp [Mode.suits, Tree.isRecord, Tree.isContainer]

theorem suits_root_object (before : List (Option (List Char) × Tree)) :
    (Mode.root (.object before.reverse)).suits scalars =
      (Mode.afterMember before).suits scalars := by
  simp [Mode.suits, Tree.isRecord, Tree.isContainer, named_reverse]

/-- One step keeps what the state suits.  It loses it only where the state becomes unfit for a
record, or where a scalar begins that may not stand in its place. -/
theorem Reads.suits (h : Reads st c st') (hs : st.Sound) (scalars : Bool) :
    Follows scalars st st' := by
  induction h with
  | space _ _ => exact .inl rfl
  | openObject k | openArray k => exact .congr rfl
  | openString k | openWord k _ | openNumeral k _ => exact .scalar rfl
  | @firstItem c k st' _ h _ =>
    obtain ⟨m, k'⟩ := st'
    obtain rfl : k' = .items [] :: k := frames_of_value rfl h
    exact .item _ m [] k
  | nextItem before k => exact .item _ .value before k
  | noItems k | noMembers k => exact .place rfl
  | closeArray before k => exact .place (suits_root_array before)
  | closeObject before k => exact .place (suits_root_object before)
  | firstName k => exact .congr rfl
  | nextName before k => exact .congr (Bool.and_true _)
  | nextMember before k => exact .congr rfl
  | inName before k _ h => exact .inName h
  | closeName before k _ => exact .closeName
  | member before name k => exact .member before name k
  | inString k _ _ | inNumeral _ k _ | inWord _ k _ => exact .congr rfl
  | closeString k _ => exact .place (suits_root_of_scalar rfl)
  | closeWord c v k => exact .place (suits_root_of_scalar hs.2)
  | @endNumeral c p lexeme k st' _ _ _ ih =>
    have hplace : (State.place (.numeral lexeme.reverse) k).suits scalars =
        State.suits scalars ⟨.numeral p lexeme, k⟩ := suits_place (suits_root_of_scalar rfl)
    have hrest := ih (sound_place _ _)
    rw [Follows, hplace] at hrest
    exact hrest

/-- what leads to a record suits one -/
theorem Reads.suits_before (h : Reads st c st') (hs : st.Sound) (hsuits : st'.suits false = true) :
    st.suits false = true := by
  rcases h.suits hs false with e | ⟨e, -⟩
  · rw [← e, hsuits]
  · exact absurd (e.symm.trans hsuits) Bool.false_ne_true

/-- while a state does not get unfit, it suits a record or a scalar -/
theorem Reads.suits_after (h : Reads st c st') (hs : st.Sound) (hsuits : st.suits true = true)
    (hfit : st'.unfit = false) : st'.suits true = true := by
  rcases h.suits hs true with e | ⟨-, e | e⟩
  · rw [e, hsuits]
  · exact absurd (hfit.symm.trans e) Bool.false_ne_true
  · cases e

theorem unfit_of_suits (h : st.suits false = true) : st.unfit = false := by
  obtain ⟨m, k⟩ := st
  cases k with
  | nil =>
    cases m with
    | name before s =>
      have hs : s.sound = true := (Bool.and_eq_true_iff.1 h).2
      show (!s.sound) = false
      rw [hs, Bool.not_true]
    | colon before name =>
      have hname : name.isSome = true := (Bool.and_eq_true_iff.1 h).2
      show name.isNone = false
      rw [Option.isNone_eq_false_iff, hname]
    | string s => cases h
    | _ => rfl
  | cons f k =>
    obtain ⟨g, hg⟩ := exists_outermost f k
    rw [suits_of_outermost hg] at h
    simp only [unfit, hg]
    cases g with
    | items before => cases h
    | member before name => rfl

theorem scalar?_of_suits (hs : st.Sound) (h : st.suits false = true) : st.scalar? = none := by
  obtain ⟨m, k⟩ := st
  cases m with
  | root t =>
    obtain rfl : k = [] := hs
    have ht : t.isRecord = true := by simpa [suits, Mode.suits] using h
    exact if_pos (Tree.isContainer_of_isRecord ht)
  | _ => rfl

end State

/-! ## the texts of records -/

namespace State

variable {st st' : State} {c : Char} {s : List Char}

theorem settle_sound {st₁ : State} (hs : st.Sound) (h : st.settle c = some st₁) : st₁.Sound := by
  obtain ⟨m, k⟩ := st
  cases m with
  | numeral p lexeme =>
    simp only [settle] at h
    split at h
    · cases h
      exact hs
    split at h
    · cases h
      exact sound_place _ k
    · cases h
  | _ =>
    cases h
    exact hs

theorem suits_of_run (h : st.run s = some st') (hs : st.Sound) (hsuits : st'.suits false = true) :
    st.suits false = true := by
  induction s generalizing st with
  | nil =>
    cases h
    exact hsuits
  | cons c s ih =>
    obtain ⟨st₁, h₁, h⟩ := run_cons_eq_some_iff.1 h
    exact h₁.suits_before hs (ih h (hs.reads h₁))

theorem readRecord_of_run {t : Tree} (h : st.run s = some ⟨.root t, []⟩) (hs : st.Sound)
    (ht : t.isRecord = true) : readRecord st s = .ok () := by
  have hend : State.suits false ⟨.root t, []⟩ = true := by
    show (t.isRecord || _) = true
    rw [ht, Bool.true_or]
  induction s generalizing st with
  | nil =>
    cases h
    exact if_pos (Tree.isContainer_of_isRecord ht)
  | cons c s ih =>
    rw [run_cons, Option.bind_eq_some_iff] at h
    obtain ⟨st₂, hstep, h⟩ := h
    obtain ⟨st₁, hsettle, htake⟩ := Option.bind_eq_some_iff.1 hstep
    have hs₁ : st₁.Sound := settle_sound hs hsettle
    have hs₂ : st₂.Sound := hs.reads (.of_step hstep)
    have hsuits₂ : st₂.suits false = true := suits_of_run h hs₂ hend
    have hsuits₁ : st₁.suits false = true := (Reads.of_take htake).suits_before hs₁ hsuits₂
    simp only [readRecord, hsettle, scalar?_of_suits hs₁ hsuits₁, htake, unfit_of_suits hsuits₂]
    exact ih h hs₂

theorem exists_of_readRecord (h : readRecord st s = .ok ()) (hs : st.Sound)
    (hsuits : st.suits true = true) :
    ∃ t, st.run s = some ⟨.root t, []⟩ ∧ t.isRecord = true := by
  induction s generalizing st with
  | nil =>
    simp only [readRecord] at h
    split at h
    · cases h
    rename_i t hv
    split at h
    · rename_i ht
      obtain rfl := eq_root_of_value? hs hv ht
      have hrecord : (t.isRecord || !t.isContainer) = true := hsuits
      rw [ht, Bool.not_true, Bool.or_false] at hrecord
      exact ⟨t, rfl, hrecord⟩
    · cases h
  | cons c s ih =>
    simp only [readRecord] at h
    split at h
    · cases h
    rename_i st₁ hsettle
    split at h
    · cases h
    split at h
    · cases h
    rename_i st₂ htake
    split at h
    · cases h
    have hstep : st.step c = some st₂ := by rw [step, hsettle, Option.bind_some, htake]
    have hfit : st₂.unfit = false := by simpa using ‹¬st₂.unfit = true›
    have hreads : Reads st c st₂ := .of_step hstep
    obtain ⟨t, ht, hrecord⟩ := ih h (hs.reads hreads) (hreads.suits_after hs hsuits hfit)
    exact ⟨t, by rw [run_cons, hstep, Option.bind_some, ht], hrecord⟩

end State

section
variable {s : List Char} {v : Json} {t : Tree}

theorem record_eq_ok_iff_run :
    record s = .ok () ↔ ∃ t, State.start.run s = some ⟨.root t, []⟩ ∧ t.isRecord = true :=
  ⟨fun h => State.exists_of_readRecord h State.sound_start rfl,
    fun ⟨_, h, ht⟩ => State.readRecord_of_run h State.sound_start ht⟩

/-- **The reader of records takes the texts whose trees are records.**  It refuses no text for what
it skips, and stops early only at what no record goes on with. -/
theorem record_eq_ok_iff :
    record s = .ok () ↔ ∃ t, Tree.read? s = some t ∧ t.isRecord = true := by
  rw [record_eq_ok_iff_run]
  refine exists_congr fun t => and_congr_left fun ht => ?_
  rw [Tree.read?, Option.bind_eq_some_iff]
  constructor
  · exact fun h => ⟨_, h, rfl⟩
  · rintro ⟨st, h, hv⟩
    rw [h, State.eq_root_of_value? (State.sound_start.run h) hv (Tree.isContainer_of_isRecord ht)]

theorem named_of_ofMembers? {members : List (Option (List Char) × Tree)}
    {ms : List (String × Json)} (h : ofMembers? members = some ms) : named members = true := by
  induction members generalizing ms with
  | nil => rfl
  | cons m r ih =>
    obtain ⟨name, t⟩ := m
    obtain ⟨k, rfl, hmember⟩ := Option.bind_eq_some_iff.1 h
    obtain ⟨w, -, hrest⟩ := Option.bind_eq_some_iff.1 hmember
    obtain ⟨ws, hr, -⟩ := Option.map_eq_some_iff.1 hrest
    rw [named_cons, ih hr]
    rfl

/-- only objects and the array without items have trees of records -/
theorem isRecord_iff_of_ofTree? (h : ofTree? t = some v) :
    t.isRecord = true ↔ v.isObject = true ∨ v = .arr [] := by
  cases t with
  | null | bool _ =>
    cases h
    simp [Tree.isRecord, Json.isObject]
  | numeral _ | string _ =>
    obtain ⟨w, -, rfl⟩ := Option.map_eq_some_iff.1 h
    simp [Tree.isRecord, Json.isObject]
  | array items =>
    obtain ⟨ws, hws, rfl⟩ := Option.map_eq_some_iff.1 h
    cases items with
    | nil =>
      cases hws
      simp [Tree.isRecord]
    | cons t r =>
      obtain ⟨w, -, hws⟩ := Option.bind_eq_some_iff.1 hws
      obtain ⟨ws, -, rfl⟩ := Option.map_eq_some_iff.1 hws
      simp [Tree.isRecord, Json.isObject]
  | object members =>
    obtain ⟨ms, hms, rfl⟩ := Option.map_eq_some_iff.1 h
    simp [Tree.isRecord, Json.isObject, named_of_ofMembers? hms]

theorem exists_tree_of_parse (h : parse s = some v) :
    ∃ t, Tree.read? s = some t ∧ ofTree? t = some v := by
  obtain ⟨t, ht, h⟩ := Option.bind_eq_some_iff.1 h
  split at h
  · exact ⟨t, ht, h⟩
  · cases h

theorem record_eq_ok_iff_of_parse (h : parse s = some v) :
    record s = .ok () ↔ v.isObject = true ∨ v = .arr [] := by
  obtain ⟨t, ht, hv⟩ := exists_tree_of_parse h
  rw [record_eq_ok_iff, ht, ← isRecord_iff_of_ofTree? hv]
  simp

/-! ## texts between blanks -/

theorem trim_ne_nil_of_parse (h : parse s = some v) : Text.trim s ≠ [] := by
  intro e
  obtain ⟨a, b, hs, ha, hb⟩ := Text.exists_trim s
  obtain ⟨t, ht, -⟩ := exists_tree_of_parse h
  obtain ⟨st, hst, hvalue⟩ := Option.bind_eq_some_iff.1 ht
  rw [hs, e, List.nil_append, ← List.append_nil (a ++ b)] at hst
  have hblank : ∀ c ∈ a ++ b, Text.isBlank c = true := fun c hc =>
    (List.mem_append.1 hc).elim (ha c) (hb c)
  obtain ⟨-, hst⟩ := State.run_of_blanks rfl hblank hst
  cases hst
  cases hvalue

theorem record_trim_of_parseObject (h : parseObject s = some v) : record (Text.trim s) = .ok () := by
  obtain ⟨hparse, hobject⟩ := parseObject_eq_some_iff.1 (isObject_trim h).parse
  exact (record_eq_ok_iff_of_parse hparse).2 (.inl hobject)

theorem of_record_trim (h : parse s = some v) (hr : record (Text.trim s) = .ok ()) :
    v.isObject = true ∨ v = .arr [] := by
  obtain ⟨a, b, hs, ha, hb⟩ := Text.exists_trim s
  obtain ⟨t, ht, hv⟩ := exists_tree_of_parse h
  obtain ⟨t', ht', hrecord⟩ := record_eq_ok_iff_run.1 hr
  obtain ⟨st, hst, hvalue⟩ := Option.bind_eq_some_iff.1 ht
  rw [hs] at hst
  -- the blanks before and after the record are white space, so that the tree is that of the record
  obtain ⟨-, hst⟩ := State.run_of_blanks rfl ha hst
  rw [State.run_append, ht', Option.bind_some, ← List.append_nil b] at hst
  obtain ⟨-, hst⟩ := State.run_of_blanks rfl hb hst
  cases hst
  cases hvalue
  exact (isRecord_iff_of_ofTree? hv).1 hrecord

end

end PromptDispatch.Json

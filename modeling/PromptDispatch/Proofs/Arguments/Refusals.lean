import PromptDispatch.Proofs.Arguments.Paths
import PromptDispatch.Proofs.Arguments.Seconds

/-!
# Command lines that are refused

* `Stand.Stuck`         what cannot be read is noticed, whatever comes after it;
* `FatalArguments`      arguments that are refused wherever they stand before a divider;
* `WrongLine.not_ok`    the mistakes of a command line, each of which is refused.
-/

namespace PromptDispatch

/-! ## values that are refused -/

def OptionSpec.Refuses (o : OptionSpec) (text : String) : Prop :=
  ∃ form, (o.use = .single form ∨ o.use = .repeated form) ∧ ∀ x, form.read text ≠ .ok x

variable {o : OptionSpec} {text : String}

theorem OptionSpec.Refuses.takesValue (h : o.Refuses text) : o.use.takesValue = true := by
  obtain ⟨form, huse | huse, -⟩ := h <;> rw [huse] <;> rfl

def CommandSpec.Unknown (c : CommandSpec) (w : String) : Prop :=
  (∃ name value, ArgumentShape.of w.toList = .long name value ∧ c.long? name = none) ∨
    ∃ letter r, ArgumentShape.of w.toList = .short (letter :: r) ∧ c.short? letter = none

theorem CommandSpec.Unknown.isOption {c : CommandSpec} {w : String} (h : c.Unknown w) :
    IsOption w := by
  rcases h with ⟨name, value, hw, -⟩ | ⟨letter, r, hw, -⟩ <;> exact ⟨by simp [hw], by simp [hw]⟩

namespace Level

variable {l l' : Level} {w : String}

theorem give_ne_ok (h : o.Refuses text) : l.give o text ≠ .ok l' := by
  obtain ⟨form, huse, hread⟩ := h
  intro hgive
  rcases huse with huse | huse
  · rw [give, huse] at hgive
    dsimp only at hgive
    split at hgive
    · cases hgive
    · obtain ⟨x, hx, -⟩ := Except.map_eq_ok_iff.1 hgive
      exact hread x hx
  · rw [give, huse] at hgive
    obtain ⟨x, hx, -⟩ := Except.map_eq_ok_iff.1 hgive
    exact hread x hx

theorem flush_of_awaiting (h : l.waiting = some (.option o none)) :
    l.flush = .error .missingValue := by
  rw [flush, h]

theorem takeLong_refused {name : String}
    (hrefuses : ∀ o, l.spec.long? name = some o → o.Refuses text) :
    l.takeLong name (some text) ≠ .ok l' := by
  intro h
  obtain ⟨o, m, ho, -, ⟨-, hnone, -⟩ | ⟨-, hgive⟩⟩ := of_takeLong h
  · cases hnone
  · exact give_ne_ok (hrefuses o ho) hgive

theorem takeShort_refused {c : Char} {r : List Char} (hr : r ≠ [])
    (htext : valueAfterLetter r = text)
    (hrefuses : ∀ o, l.spec.short? c = some o → o.Refuses text) :
    l.takeShort (c :: r) ≠ .ok l' := by
  intro h
  obtain ⟨o, m, ho, -, ⟨-, hnil, -⟩ | ⟨-, -, hgive⟩ | ⟨hvalue, -⟩⟩ := of_takeShort h
  · exact hr hnil
  · rw [htext] at hgive
    exact give_ne_ok (hrefuses o ho) hgive
  · cases (hrefuses o ho).takesValue.symm.trans hvalue

theorem takeLong_awaits {name : String}
    (hrefuses : ∀ o, l.spec.long? name = some o → o.Refuses text)
    (h : l.takeLong name none = .ok l') :
    ∃ o, o.Refuses text ∧ l'.waiting = some (.option o none) := by
  obtain ⟨o, m, ho, -, ⟨-, -, rfl⟩ | ⟨hvalue, -⟩⟩ := of_takeLong h
  · exact ⟨o, hrefuses o ho, rfl⟩
  · cases (hrefuses o ho).takesValue.symm.trans hvalue

theorem takeShort_awaits {c : Char} (hrefuses : ∀ o, l.spec.short? c = some o → o.Refuses text)
    (h : l.takeShort [c] = .ok l') : ∃ o, o.Refuses text ∧ l'.waiting = some (.option o none) := by
  obtain ⟨o, m, ho, -, ⟨-, -, rfl⟩ | ⟨-, hnil, -⟩ | ⟨hvalue, -⟩⟩ := of_takeShort h
  · exact ⟨o, hrefuses o ho, rfl⟩
  · exact absurd rfl hnil
  · cases (hrefuses o ho).takesValue.symm.trans hvalue

theorem take_of_long {name : String} {value : Option String}
    (hw : ArgumentShape.of w.toList = .long name value) : l.take w = l.takeLong name value := by
  rw [take, hw]

theorem take_of_short {letters : List Char} (hw : ArgumentShape.of w.toList = .short letters) :
    l.take w = l.takeShort letters := by
  rw [take, hw]

theorem take_unknown (hw : l.spec.Unknown w) : l.take w ≠ .ok l' := by
  intro h
  rcases hw with ⟨name, value, hw, hnone⟩ | ⟨c, r, hw, hnone⟩
  · rw [take_of_long hw] at h
    obtain ⟨o, m, ho, -⟩ := of_takeLong h
    cases hnone.symm.trans ho
  · rw [take_of_short hw] at h
    obtain ⟨o, m, ho, -⟩ := of_takeShort h
    cases hnone.symm.trans ho

/-! ## levels that are stuck -/

/-- what waits cannot be read, and it waits for nothing -/
def Stuck (l : Level) : Prop := l.awaits = false ∧ ∀ m, l.flush ≠ .ok m

theorem stuck_of_await (h : o.Refuses text) (l : Level) :
    (l.await (.option o (some text))).Stuck := ⟨rfl, fun _ => give_ne_ok h⟩

theorem Stuck.not_taken (h : l.Stuck) : ¬Taken l w l' := by
  rintro (⟨-, htaken⟩ | ⟨-, o, hwaiting, -⟩ | ⟨-, -, htaken⟩)
  · obtain ⟨m, hm⟩ := htaken.flush
    exact h.2 m hm
  · have hawaits := h.1
    rw [awaits, hwaiting] at hawaits
    cases hawaits
  · obtain ⟨-, -, -, -, m, hm⟩ := of_takeWord htaken
    exact h.2 m hm

end Level

namespace Stand

variable {s s' : Stand} {w : String} {args rest before : List String} {ls : List Level}

/-- one of the levels is stuck -/
def Stuck (s : Stand) : Prop := ∃ l ∈ s.level :: s.outer, l.Stuck

theorem Step.stuck (h : Step s w s') (hs : s.Stuck) : s'.Stuck := by
  obtain ⟨m, hm, hstuck⟩ := hs
  cases h with
  | word h =>
    rcases List.mem_cons.1 hm with rfl | hm
    · obtain ⟨-, -, -, -, m', hflush⟩ := Level.of_takeWord h
      exact absurd hflush (hstuck.2 m')
    · exact ⟨m, List.mem_cons_of_mem _ hm, hstuck⟩
  | enter => exact ⟨m, List.mem_cons_of_mem _ hm, hstuck⟩
  | divider => exact ⟨m, hm, hstuck⟩
  | argument hmember hw h =>
    rcases List.mem_cons.1 hm with rfl | hm
    · exact absurd (Level.taken_of_take h hw) hstuck.not_taken
    · exact ⟨m, List.mem_cons_of_mem _ hm, hstuck⟩

/-- What cannot be read is noticed, whatever comes after it. -/
theorem not_ok_of_stuck (hs : s.Stuck) : s.read args ≠ .ok ls := by
  intro h
  rw [← List.append_nil args] at h
  obtain ⟨s', ⟨m, hm, hstuck⟩, h⟩ := exists_run (fun _ _ _ _ => Step.stuck) hs h
  obtain ⟨⟨l, hl⟩, ls', hls⟩ := of_read_nil h
  rcases List.mem_cons.1 hm with rfl | hm
  · obtain ⟨m', hm', -⟩ := Except.bind_eq_ok_iff.1 hl
    exact hstuck.2 m' hm'
  · obtain ⟨m', hm'⟩ := Except.exists_of_mapM hls hm
    exact hstuck.2 m' hm'

/-- an option waits for its value, and the text that comes is none -/
theorem not_ok_of_awaiting (honly : s.onlyWords = false) (hrefuses : o.Refuses text)
    (hwaiting : s.level.waiting = some (.option o none)) : s.read (text :: rest) ≠ .ok ls := by
  intro h
  have hflush : ∀ m, s.level.flush ≠ .ok m := fun m hm => by
    rw [Level.flush_of_awaiting hwaiting] at hm
    cases hm
  have hawaits : s.level.awaits = true := by rw [Level.awaits, hwaiting]
  obtain ⟨s', hstep, h⟩ := exists_step h
  cases hstep with
  | word => cases honly
  | enter hnot => cases hnot.symm.trans hawaits
  | divider =>
    -- the divider is noticed only with what comes after it
    cases rest with
    | nil =>
      obtain ⟨⟨l, hl⟩, -⟩ := of_read_nil h
      obtain ⟨m, hm, -⟩ := Except.bind_eq_ok_iff.1 hl
      exact hflush m hm
    | cons w r =>
      obtain ⟨s'', hstep, -⟩ := exists_step h
      cases hstep with
      | word hword =>
        obtain ⟨-, -, -, -, m, hm⟩ := Level.of_takeWord hword
        exact hflush m hm
  | argument hmember hw htake =>
    cases Level.taken_of_take htake hw with
    | option hshape htaken =>
      obtain ⟨m, hm⟩ := htaken.flush
      exact hflush m hm
    | word hshape hnot => cases hnot.symm.trans hawaits
    | value hshape o' hwaiting' hl =>
      obtain rfl : o' = o := by
        rw [hwaiting] at hwaiting'
        cases hwaiting'
        rfl
      exact not_ok_of_stuck ⟨_, List.mem_cons_self, hl ▸ Level.stuck_of_await hrefuses _⟩ h

end Stand

/-! ## arguments that are refused everywhere -/

/-- No command line with these arguments before a divider is accepted. -/
def FatalArguments (args : List String) : Prop :=
  ∀ s : Stand, s.level.spec ∈ everyCommand → s.onlyWords = false →
    ∀ rest ls, s.read (args ++ rest) ≠ .ok ls

section
open Stand

variable {before args rest : List String} {w : String} {ls : List Level}

theorem FatalArguments.not_ok (h : FatalArguments args) (hbefore : "--" ∉ before) :
    start.read (before ++ (args ++ rest)) ≠ .ok ls := by
  intro hread
  obtain ⟨s, ⟨hspec, honly⟩, hread⟩ := exists_run
    (P := fun s => s.level.spec ∈ everyCommand ∧ s.onlyWords = false)
    (fun s w s' hw hstep hs => ⟨hstep.spec_mem hs.1,
      (hstep.onlyWords fun hdivider => hbefore (hdivider ▸ hw)).trans hs.2⟩)
    ⟨List.mem_cons_self, rfl⟩ hread
  exact h s hspec honly rest ls hread

theorem fatal_attached (hw : IsOption w)
    (htake : ∀ l : Level, l.spec ∈ everyCommand → ∀ l', l.take w ≠ .ok l') :
    FatalArguments [w] := by
  intro s hspec honly rest ls h
  obtain ⟨l, hl, -⟩ := exists_take hspec honly hw h
  exact htake _ hspec l hl

theorem fatal_detached (hw : IsOption w)
    (htake : ∀ l : Level, l.spec ∈ everyCommand → ∀ l', l.take w = .ok l' →
      ∃ o : OptionSpec, o.Refuses text ∧ l'.waiting = some (.option o none)) :
    FatalArguments [w, text] := by
  intro s hspec honly rest ls h
  obtain ⟨l, hl, h⟩ := exists_take hspec honly hw h
  obtain ⟨o, hrefuses, hwaiting⟩ := htake _ hspec l hl
  exact not_ok_of_awaiting (s := ⟨l, s.outer, false⟩) rfl hrefuses hwaiting h

section
variable {name : String}
  (hrefuses : ∀ c ∈ everyCommand, ∀ o, c.long? name = some o → o.Refuses text)
include hrefuses

theorem fatal_long_value (hw : ArgumentShape.of w.toList = .long name (some text)) :
    FatalArguments [w] := by
  refine fatal_attached ⟨by simp [hw], by simp [hw]⟩ fun l hl l' h => ?_
  rw [Level.take_of_long hw] at h
  exact Level.takeLong_refused (hrefuses _ hl) h

theorem fatal_long (hw : ArgumentShape.of w.toList = .long name none) :
    FatalArguments [w, text] := by
  refine fatal_detached ⟨by simp [hw], by simp [hw]⟩ fun l hl l' h => ?_
  rw [Level.take_of_long hw] at h
  exact Level.takeLong_awaits (hrefuses _ hl) h

end

section
variable {c : Char} (hrefuses : ∀ d ∈ everyCommand, ∀ o, d.short? c = some o → o.Refuses text)
include hrefuses

theorem fatal_short_value {r : List Char} (hw : ArgumentShape.of w.toList = .short (c :: r))
    (hr : r ≠ []) (htext : Level.valueAfterLetter r = text) : FatalArguments [w] := by
  refine fatal_attached ⟨by simp [hw], by simp [hw]⟩ fun l hl l' h => ?_
  rw [Level.take_of_short hw] at h
  exact Level.takeShort_refused hr htext (hrefuses _ hl) h

theorem fatal_short (hw : ArgumentShape.of w.toList = .short [c]) : FatalArguments [w, text] := by
  refine fatal_detached ⟨by simp [hw], by simp [hw]⟩ fun l hl l' h => ?_
  rw [Level.take_of_short hw] at h
  exact Level.takeShort_awaits (hrefuses _ hl) h

end

/-- An option that no command has is refused. -/
theorem fatal_unknown (hw : ∀ c ∈ everyCommand, c.Unknown w) : FatalArguments [w] :=
  fatal_attached (hw commandTree List.mem_cons_self).isOption
    fun _ hl _ => Level.take_unknown (hw _ hl)

/-! ## settings and timeouts -/

theorem use_of_everyCommand {c : CommandSpec} (hc : c ∈ everyCommand) :
    (c.long? "env" = some o ∨ c.short? 'e' = some o → o.use = .repeated .setting) ∧
      (c.long? "timeout" = some o → o.use = .single .seconds) := by
  have huses : ∀ c ∈ everyCommand, ∀ o ∈ c.options,
      (o.name = "env" ∨ o.letter = some 'e' → o.use = .repeated .setting) ∧
        (o.name = "timeout" → o.use = .single .seconds) := by decide
  refine ⟨fun ho => ?_, fun ho => (huses c hc o (mem_of_long? ho).1).2 (mem_of_long? ho).2⟩
  rcases ho with ho | ho
  · exact (huses c hc o (mem_of_long? ho).1).1 (.inl (mem_of_long? ho).2)
  · exact (huses c hc o (mem_of_short? ho).1).1 (.inr (mem_of_short? ho).2)

/-- the text has no name before an equals sign -/
def NoSetting (text : String) : Prop := ∀ name value, Gives text name value → name = ""

theorem NoSetting.refuses (htext : NoSetting text) {c : CommandSpec} (hc : c ∈ everyCommand)
    (ho : c.long? "env" = some o ∨ c.short? 'e' = some o) : o.Refuses text := by
  refine ⟨.setting, .inr ((use_of_everyCommand hc).1 ho), fun x hx => ?_⟩
  rw [ValueForm.read, Except.mapError_eq_ok_iff] at hx
  obtain ⟨⟨name, value⟩, hread, -⟩ := Except.map_eq_ok_iff.1 hx
  obtain ⟨hgives, hname⟩ := readSetting_eq_ok_iff.1 hread
  exact hname (htext name value hgives)

theorem refuses_of_not_isSeconds (htext : ¬IsSeconds text.toList) {c : CommandSpec}
    (hc : c ∈ everyCommand) (ho : c.long? "timeout" = some o) : o.Refuses text := by
  refine ⟨.seconds, .inl ((use_of_everyCommand hc).2 ho), fun x hx => ?_⟩
  rw [ValueForm.read, Except.mapError_eq_ok_iff] at hx
  obtain ⟨n, hread, -⟩ := Except.map_eq_ok_iff.1 hx
  exact htext (exists_readSeconds_iff.1 ⟨n, hread⟩)

/-- The text stands in the argument as it is: right after a letter it is not empty, and an equals
sign would be left out. -/
def Spelling.Joins : Spelling → String → Prop
  | .shortJoined, text => ∃ c r, text.toList = c :: r ∧ c ≠ '='
  | _, _ => True

/-- A text without a name before an equals sign is refused as a setting, in every spelling. -/
theorem fatal_setting (htext : NoSetting text) {sp : Spelling} (hjoins : sp.Joins text) :
    FatalArguments (sp.words text) := by
  have hlong (c : CommandSpec) (hc : c ∈ everyCommand) (o : OptionSpec)
      (ho : c.long? "env" = some o) := htext.refuses hc (.inl ho)
  have hshort (c : CommandSpec) (hc : c ∈ everyCommand) (o : OptionSpec)
      (ho : c.short? 'e' = some o) := htext.refuses hc (.inr ho)
  cases sp with
  | short => exact fatal_short hshort rfl
  | long => exact fatal_long hlong (by decide)
  | shortJoined =>
    obtain ⟨c, r, hchars, hc⟩ := hjoins
    have hw : ("-e" ++ text).toList = '-' :: 'e' :: c :: r := by
      rw [String.toList_append, hchars]
      rfl
    have hvalue : Level.valueAfterLetter (c :: r) = text := by
      unfold Level.valueAfterLetter
      split
      · rename_i heq
        cases heq
        exact absurd rfl hc
      · rw [← hchars, String.ofList_toList]
    exact fatal_short_value hshort (by rw [hw]; rfl) (List.cons_ne_nil c r) hvalue
  | shortEquals =>
    have hw : ("-e=" ++ text).toList = '-' :: 'e' :: '=' :: text.toList := by
      rw [String.toList_append]
      rfl
    have hvalue : Level.valueAfterLetter ('=' :: text.toList) = text := String.ofList_toList
    exact fatal_short_value hshort (by rw [hw]; rfl) (List.cons_ne_nil _ _) hvalue
  | longEquals =>
    have hw : ("--env=" ++ text).toList = '-' :: '-' :: ("env".toList ++ '=' :: text.toList) := by
      rw [String.toList_append]
      rfl
    exact fatal_long_value hlong (ArgumentShape.of_long (by decide) text hw)

/-- A text that is no number of seconds is refused as a timeout. -/
theorem fatal_timeout (htext : ¬IsSeconds text.toList) :
    FatalArguments ["--timeout", text] ∧ FatalArguments ["--timeout=" ++ text] := by
  have hlong (c : CommandSpec) (hc : c ∈ everyCommand) (o : OptionSpec)
      (ho : c.long? "timeout" = some o) := refuses_of_not_isSeconds htext hc ho
  have hw : ("--timeout=" ++ text).toList =
      '-' :: '-' :: ("timeout".toList ++ '=' :: text.toList) := by
    rw [String.toList_append]
    rfl
  exact ⟨fatal_long hlong (by decide),
    fatal_long_value hlong (ArgumentShape.of_long (by decide) text hw)⟩

end

/-! ## mistakes -/

/-- The mistakes of a command line. -/
inductive WrongLine : List String → Prop
  /-- there is no command -/
  | noCommand {args c} (h : CommandPath args c) (hc : c.isGroup = true) : WrongLine args
  | unknownCommand {before after c w} (h : CommandPath before c) (hc : c.isGroup = true)
    (hw : ArgumentShape.of w.toList = .word) (hm : c.member? w = none) :
    WrongLine (before ++ w :: after)
  /-- no command has the option -/
  | unknownOption {before after w} (hbefore : "--" ∉ before)
    (hw : ∀ c ∈ everyCommand, c.Unknown w) : WrongLine (before ++ w :: after)
  /-- the command does not have the option -/
  | foreignOption {before args after c w} (h : CommandPath before c) (hc : c.isGroup = false)
    (hargs : "--" ∉ args) (hw : c.Unknown w) : WrongLine (before ++ (args ++ w :: after))
  /-- a setting without a name and an equals sign after it -/
  | badSetting {before after} {sp : Spelling} {text} (hbefore : "--" ∉ before)
    (hjoins : sp.Joins text) (htext : NoSetting text) :
    WrongLine (before ++ (sp.words text ++ after))
  /-- a timeout that is no number below `2 ^ 64` -/
  | badTimeout {before args after text} (hbefore : "--" ∉ before)
    (hargs : args = ["--timeout", text] ∨ args = ["--timeout=" ++ text])
    (htext : ¬IsSeconds text.toList) : WrongLine (before ++ (args ++ after))
  | missingWord {before after c} (h : CommandPath before c) (hc : c.isGroup = false)
    (hwords : (possibleWords after).length < c.required) : WrongLine (before ++ after)
  | surplusWord {before after c} (h : CommandPath before c) (hc : c.isGroup = false)
    (hwords : c.words.length < (certainWords false after).length) : WrongLine (before ++ after)

section
open Stand

variable {before args rest after : List String} {c : CommandSpec} {w : String} {ls : List Level}

theorem not_ok_of_path (hpath : CommandPath args c) (hc : c.isGroup = true) :
    start.read args ≠ .ok ls := by
  intro h
  rw [← List.append_nil args] at h
  obtain ⟨s, hs, h⟩ := exists_fresh hpath h
  obtain ⟨⟨l, hl⟩, -⟩ := of_read_nil h
  cases hc.symm.trans (hs.spec ▸ (Level.of_finish hl).1)

theorem not_ok_of_unknownCommand (hpath : CommandPath before c) (hc : c.isGroup = true)
    (hw : ArgumentShape.of w.toList = .word) (hm : c.member? w = none) :
    start.read (before ++ w :: after) ≠ .ok ls := by
  intro h
  obtain ⟨s, hs, h⟩ := exists_fresh hpath h
  obtain ⟨s', hstep, h⟩ := exists_step h
  cases hstep with
  | word => cases hs.onlyWords
  | enter hwaiting hm' => cases (hs.spec ▸ hm').symm.trans hm
  | divider => cases hw
  | argument hmember hne htake =>
    cases Level.taken_of_take htake hne with
    | option hw' => exact hw' hw
    | value hw' o hwaiting =>
      have hawaits := hs.awaits
      rw [Level.awaits, hwaiting] at hawaits
      cases hawaits
    | word hw' hwaiting hword =>
      obtain ⟨-, -, hlt, -⟩ := Level.of_takeWord hword
      rw [hs.spec, (options_of_isGroup hc).2] at hlt
      cases hlt

theorem not_ok_of_foreignOption (hpath : CommandPath before c) (hc : c.isGroup = false)
    (hargs : "--" ∉ args) (hw : c.Unknown w) :
    start.read (before ++ (args ++ w :: after)) ≠ .ok ls := by
  intro h
  obtain ⟨s, hs, h⟩ := exists_fresh hpath h
  obtain ⟨s', ⟨hspec, honly⟩, h⟩ := exists_run
    (P := fun s => s.level.spec = c ∧ s.onlyWords = false)
    (fun s w s' hw hstep hs => ⟨(hstep.spec_of_leaf (hs.1 ▸ hc)).trans hs.1,
      (hstep.onlyWords fun hdivider => hargs (hdivider ▸ hw)).trans hs.2⟩)
    ⟨hs.spec, hs.onlyWords⟩ h
  obtain ⟨l, hl, -⟩ := exists_take (hspec ▸ hpath.mem) honly hw.isOption h
  exact Level.take_unknown (hspec ▸ hw) hl

/-- **A command line with a mistake is refused.** -/
theorem WrongLine.not_ok {q : Request} (h : WrongLine args) : Request.ofArguments args ≠ .ok q := by
  intro hq
  obtain ⟨ls, hread, -⟩ := Except.map_eq_ok_iff.1 hq
  have hread : start.read args = .ok ls := hread
  cases h with
  | noCommand h hc => exact not_ok_of_path h hc hread
  | unknownCommand h hc hw hm => exact not_ok_of_unknownCommand h hc hw hm hread
  | unknownOption hbefore hw => exact (fatal_unknown hw).not_ok hbefore hread
  | foreignOption h hc hargs hw => exact not_ok_of_foreignOption h hc hargs hw hread
  | badSetting hbefore hjoins htext => exact (fatal_setting htext hjoins).not_ok hbefore hread
  | badTimeout hbefore hargs htext =>
    obtain ⟨hdetached, hattached⟩ := fatal_timeout htext
    rcases hargs with rfl | rfl
    · exact hdetached.not_ok hbefore hread
    · exact hattached.not_ok hbefore hread
  | missingWord h hc hwords => exact Nat.not_le_of_lt hwords (words_of_path h hc hread).1
  | surplusWord h hc hwords => exact Nat.not_le_of_lt hwords (words_of_path h hc hread).2

end

end PromptDispatch

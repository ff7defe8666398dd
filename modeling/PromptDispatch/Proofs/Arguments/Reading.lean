import PromptDispatch.Proofs.Arguments.Settings

/-!
# Reading a command line step by step

A command line that is accepted is read by steps, one for each of its arguments.

* `Level.of_takeLong`, `Level.of_takeShort`   what an option does to a level that it is accepted at;
* `Level.Taken`                               what any argument does to it;
* `Stand.Step`, `Stand.exists_step`           what an argument of an accepted command line does;
* `Stand.exists_run`                          what every step keeps, a run of them keeps.
-/

namespace PromptDispatch

/-! ## all commands -/

def everyCommand : List CommandSpec :=
  commandTree :: (commands ++ commands.flatMap CommandSpec.members)

theorem mem_everyCommand_of_member {c m : CommandSpec} {w : String} (hc : c ∈ everyCommand)
    (hm : c.member? w = some m) : m ∈ everyCommand := by
  have hmem : m ∈ c.members := List.mem_of_find?_eq_some hm
  have hleaves : ∀ c ∈ commands.flatMap CommandSpec.members, c.members.isEmpty = true := by decide
  rcases List.mem_cons.1 hc with rfl | hc
  · exact List.mem_cons_of_mem _ (List.mem_append_left _ hmem)
  · rcases List.mem_append.1 hc with hc | hc
    · exact List.mem_cons_of_mem _ (List.mem_append_right _ (List.mem_flatMap.2 ⟨c, hc, hmem⟩))
    · rw [List.isEmpty_iff.1 (hleaves c hc)] at hmem
      cases hmem

theorem mem_of_long? {c : CommandSpec} {name : String} {o : OptionSpec}
    (h : c.long? name = some o) : o ∈ c.options ∧ o.name = name :=
  ⟨List.mem_of_find?_eq_some h, by simpa using List.find?_some h⟩

theorem mem_of_short? {c : CommandSpec} {letter : Char} {o : OptionSpec}
    (h : c.short? letter = some o) : o ∈ c.options ∧ o.letter = some letter :=
  ⟨List.mem_of_find?_eq_some h, by simpa using List.find?_some h⟩

theorem member?_of_hyphen {c : CommandSpec} {w : String} (hc : c ∈ everyCommand)
    (hw : w.toList.head? = some '-') : c.member? w = none := by
  have hnames : ∀ c ∈ everyCommand, ∀ m ∈ c.members, m.name.toList.head? ≠ some '-' := by decide
  refine List.find?_eq_none.2 fun m hm hname => hnames c hc m hm ?_
  rw [of_decide_eq_true hname, hw]

def IsOption (w : String) : Prop :=
  ArgumentShape.of w.toList ≠ .word ∧ ArgumentShape.of w.toList ≠ .divider

theorem IsOption.ne_divider {w : String} (h : IsOption w) : w ≠ "--" := by
  rintro rfl
  exact h.2 rfl

theorem ArgumentShape.of_head {s : List Char} (h : of s ≠ .word) : s.head? = some '-' := by
  by_contra hhead
  exact h (of_eq_word hhead)

theorem ArgumentShape.of_long {name : List Char} (hname : '=' ∉ name) (text : String) {w : String}
    (hw : w.toList = '-' :: '-' :: (name ++ '=' :: text.toList)) :
    of w.toList = .long (String.ofList name) (some text) := by
  have htake := Text.takeWhile_ne_append hname text.toList
  have hdrop := Text.dropWhile_ne_append hname text.toList
  obtain ⟨c, r, hcons⟩ := List.exists_cons_of_ne_nil
    (show name ++ '=' :: text.toList ≠ [] by simp)
  rw [hcons] at htake hdrop hw
  rw [hw, of]
  · rw [htake, hdrop]
    dsimp only
    rw [String.ofList_toList]
  · exact List.cons_ne_nil c r

theorem ArgumentShape.of_eq_divider {s : List Char} (h : of s = .divider) : s = ['-', '-'] := by
  rw [of.eq_def] at h
  split at h
  · rfl
  · dsimp only at h
    split at h <;> cases h
  · cases h
  · cases h

theorem ArgumentShape.exists_letters {s letters : List Char} (h : of s = .short letters) :
    ∃ c r, letters = c :: r := by
  rw [of.eq_def] at h
  split at h
  · cases h
  · dsimp only at h
    split at h <;> cases h
  · cases h
    exact ⟨_, _, rfl⟩
  · cases h

namespace Level

variable {l l' : Level} {o : OptionSpec} {w : String}

/-! ## options -/

theorem spec_of_give (h : l.give o w = .ok l') : l'.spec = l.spec := by
  obtain ⟨x, rfl⟩ := exists_of_give h
  rfl

/-- An option is read once what was waiting has been, unless its value is to come. -/
theorem of_takeLong {name : String} {value : Option String} (h : l.takeLong name value = .ok l') :
    ∃ o m, l.spec.long? name = some o ∧ l.flush = .ok m ∧
      ((o.use.takesValue = true ∧ value = none ∧ l' = m.await (.option o none)) ∨
        (o.use.takesValue = value.isSome ∧ m.give o (value.getD "") = .ok l')) := by
  rw [takeLong] at h
  split at h
  · cases h
  · rename_i o ho
    split at h
    · cases h
    · rename_i hvalue
      obtain ⟨m, hm, h⟩ := Except.bind_eq_ok_iff.1 h
      exact ⟨o, m, ho, hm, .inr ⟨hvalue, h⟩⟩
    · rename_i hvalue
      obtain ⟨m, hm, h⟩ := Except.bind_eq_ok_iff.1 h
      exact ⟨o, m, ho, hm, .inr ⟨hvalue, h⟩⟩
    · rename_i hvalue
      obtain ⟨m, hm, rfl⟩ := Except.map_eq_ok_iff.1 h
      exact ⟨o, m, ho, hm, .inl ⟨hvalue, rfl, rfl⟩⟩

def valueAfterLetter : List Char → String
  | '=' :: v => String.ofList v
  | r => String.ofList r

/-- The first letter after a hyphen is an option; what is left is its value or the next letters. -/
theorem of_takeShort {c : Char} {r : List Char} (h : l.takeShort (c :: r) = .ok l') :
    ∃ o m, l.spec.short? c = some o ∧ l.flush = .ok m ∧
      ((o.use.takesValue = true ∧ r = [] ∧ l' = m.await (.option o none)) ∨
        (o.use.takesValue = true ∧ r ≠ [] ∧ m.give o (valueAfterLetter r) = .ok l') ∨
        (o.use.takesValue = false ∧ ∃ m', m.give o "" = .ok m' ∧ m'.takeShort r = .ok l')) := by
  rw [takeShort] at h
  split at h
  · cases h
  · rename_i o ho
    split at h
    · rename_i hvalue
      split at h
      · obtain ⟨m, hm, rfl⟩ := Except.map_eq_ok_iff.1 h
        exact ⟨o, m, ho, hm, .inl ⟨hvalue, rfl, rfl⟩⟩
      · obtain ⟨m, hm, h⟩ := Except.bind_eq_ok_iff.1 h
        exact ⟨o, m, ho, hm, .inr (.inl ⟨hvalue, List.cons_ne_nil _ _, h⟩)⟩
      · rename_i hnil hequals
        obtain ⟨m, hm, h⟩ := Except.bind_eq_ok_iff.1 h
        have hjoined : valueAfterLetter r = String.ofList r := by
          unfold valueAfterLetter
          split
          · exact absurd rfl (hequals _)
          · rfl
        exact ⟨o, m, ho, hm, .inr (.inl ⟨hvalue, hnil, hjoined.symm ▸ h⟩)⟩
    · rename_i hvalue
      obtain ⟨m', hgiven, h⟩ := Except.bind_eq_ok_iff.1 h
      obtain ⟨m, hm, hgive⟩ := Except.bind_eq_ok_iff.1 hgiven
      exact ⟨o, m, ho, hm, .inr (.inr ⟨Bool.eq_false_iff.2 hvalue, m', hgive, h⟩)⟩

/-- An argument with hyphens leaves the words alone, after what was waiting could be read. -/
structure Optional (l l' : Level) : Prop where
  spec : l'.spec = l.spec
  count : l'.wordCount = l.wordCount
  flush : ∃ m, l.flush = .ok m

theorem optional_of_give {m : Level} (hm : l.flush = .ok m) (h : m.give o w = .ok l') :
    Optional l l' := by
  obtain ⟨hspec, -, hcount⟩ := of_flush hm
  obtain ⟨x, rfl⟩ := exists_of_give h
  exact ⟨hspec, hcount.symm, m, hm⟩

theorem optional_of_await {m : Level} (hm : l.flush = .ok m) :
    Optional l (m.await (.option o none)) := by
  obtain ⟨hspec, -, hcount⟩ := of_flush hm
  exact ⟨hspec, hcount.symm, m, hm⟩

theorem Optional.trans {l'' : Level} (h : Optional l l') (h' : Optional l' l'') :
    Optional l l'' :=
  ⟨h'.spec.trans h.spec, h'.count.trans h.count, h.flush⟩

theorem optional_of_takeLong {name : String} {value : Option String}
    (h : l.takeLong name value = .ok l') : Optional l l' := by
  obtain ⟨o, m, -, hm, ⟨-, -, rfl⟩ | ⟨-, hgive⟩⟩ := of_takeLong h
  · exact optional_of_await hm
  · exact optional_of_give hm hgive

theorem optional_of_takeShort {c : Char} {r : List Char} (h : l.takeShort (c :: r) = .ok l') :
    Optional l l' := by
  induction r generalizing l c with
  | nil =>
    obtain ⟨o, m, -, hm, ⟨-, -, rfl⟩ | ⟨-, -, hgive⟩ | ⟨-, m', hgive, hrest⟩⟩ := of_takeShort h
    · exact optional_of_await hm
    · exact optional_of_give hm hgive
    · cases hrest
      exact optional_of_give hm hgive
  | cons d r ih =>
    obtain ⟨o, m, -, hm, ⟨-, -, rfl⟩ | ⟨-, -, hgive⟩ | ⟨-, m', hgive, hrest⟩⟩ := of_takeShort h
    · exact optional_of_await hm
    · exact optional_of_give hm hgive
    · exact (optional_of_give hm hgive).trans (ih hrest)

/-! ## any argument -/

theorem wordCount_of_value (h : l.waiting = some (.option o none)) :
    (l.await (.option o (some w))).wordCount = l.wordCount := by
  rw [wordCount, wordCount, h]
  rfl

/-- a word takes the next place -/
theorem of_takeWord {afterDivider : Bool} (h : l.takeWord afterDivider w = .ok l') :
    l'.spec = l.spec ∧ l'.wordCount = l.wordCount + 1 ∧ l.wordCount < l.spec.words.length ∧
      l'.awaits = false ∧ ∃ m, l.flush = .ok m := by
  rw [takeWord] at h
  split at h
  · rename_i spec hplace
    obtain ⟨m, hm, rfl⟩ := Except.map_eq_ok_iff.1 h
    obtain ⟨hspec, -, hcount⟩ := of_flush hm
    refine ⟨hspec, ?_, (List.getElem?_eq_some_iff.1 hplace).1, rfl, m, hm⟩
    rw [hcount]
    rfl
  · cases h

inductive Taken (l : Level) (w : String) (l' : Level) : Prop
  | option (hw : ArgumentShape.of w.toList ≠ .word) (h : Optional l l')
  | value (hw : ArgumentShape.of w.toList = .word) (o : OptionSpec)
    (hwaiting : l.waiting = some (.option o none)) (h : l' = l.await (.option o (some w)))
  | word (hw : ArgumentShape.of w.toList = .word) (hwaiting : l.awaits = false)
    (h : l.takeWord false w = .ok l')

theorem taken_of_take (h : l.take w = .ok l') (hw : w ≠ "--") : Taken l w l' := by
  rw [take] at h
  split at h
  · rename_i name value hshape
    exact .option (by simp [hshape]) (optional_of_takeLong h)
  · rename_i letters hshape
    obtain ⟨c, r, rfl⟩ := ArgumentShape.exists_letters hshape
    exact .option (by simp [hshape]) (optional_of_takeShort h)
  · rename_i hlong hshort
    have hshape : ArgumentShape.of w.toList = .word := by
      cases hs : ArgumentShape.of w.toList with
      | word => rfl
      | divider => exact absurd (String.toList_injective (ArgumentShape.of_eq_divider hs)) hw
      | long name value => exact absurd hs (hlong name value)
      | short letters => exact absurd hs (hshort letters)
    split at h
    · rename_i o hwaiting
      cases h
      exact .value hshape o hwaiting rfl
    · rename_i hwaiting
      refine .word hshape ?_ h
      rw [awaits]
      split
      · rename_i o ho
        exact absurd ho (hwaiting o)
      · rfl

theorem Taken.spec (h : Taken l w l') : l'.spec = l.spec := by
  cases h with
  | option hw h => exact h.spec
  | value hw o hwaiting h => rw [h, await]
  | word hw hwaiting h => exact (of_takeWord h).1

end Level

/-! ## steps -/

structure Stand where
  level : Level
  outer : List Level := []
  /-- a divider has come -/
  onlyWords : Bool := false

namespace Stand

def read (s : Stand) (args : List String) : Except UsageFault (List Level) :=
  readLevels args s.level s.outer s.onlyWords

def start : Stand := { level := { spec := commandTree } }

def NoMember (l : Level) (w : String) : Prop := l.awaits = false → l.spec.member? w = none

/-- What an argument of an accepted command line does. -/
inductive Step : Stand → String → Stand → Prop
  | word {l l' outer w} (h : l.takeWord true w = .ok l') : Step ⟨l, outer, true⟩ w ⟨l', outer, true⟩
  | enter {l outer w m} (hwaiting : l.awaits = false) (h : l.spec.member? w = some m) :
    Step ⟨l, outer, false⟩ w ⟨{ spec := m }, l :: outer, false⟩
  | divider {l outer} (hmember : NoMember l "--") : Step ⟨l, outer, false⟩ "--" ⟨l, outer, true⟩
  | argument {l l' outer w} (hmember : NoMember l w) (hw : w ≠ "--") (h : l.take w = .ok l') :
    Step ⟨l, outer, false⟩ w ⟨l', outer, false⟩

variable {s s' : Stand} {w : String} {args rest : List String} {ls : List Level}

theorem exists_step (h : s.read (w :: rest) = .ok ls) :
    ∃ s', Step s w s' ∧ s'.read rest = .ok ls := by
  obtain ⟨l, outer, onlyWords⟩ := s
  cases onlyWords with
  | true =>
    obtain ⟨l', hl, hrest⟩ := Except.bind_eq_ok_iff.1 h
    exact ⟨⟨l', outer, true⟩, .word hl, hrest⟩
  | false =>
    rw [read, readLevels] at h
    split at h
    · cases h
    · split at h
      · rename_i m hm
        split at hm
        · cases hm
        · rename_i hwaiting
          exact ⟨⟨_, _, false⟩, .enter (Bool.eq_false_iff.2 hwaiting) hm, h⟩
      · rename_i hm
        have hmember : NoMember l w := fun hwaiting => by rwa [hwaiting] at hm
        split at h
        · rename_i hw
          subst hw
          exact ⟨⟨l, outer, true⟩, .divider hmember, h⟩
        · rename_i hw
          obtain ⟨l', hl, hrest⟩ := Except.bind_eq_ok_iff.1 h
          exact ⟨⟨l', outer, false⟩, .argument hmember hw hl, hrest⟩

/-- What every step over these arguments keeps, an accepted command line keeps. -/
theorem exists_run {P : Stand → Prop} (hstep : ∀ s w s', w ∈ args → Step s w s' → P s → P s')
    (hs : P s) (h : s.read (args ++ rest) = .ok ls) : ∃ s', P s' ∧ s'.read rest = .ok ls := by
  induction args generalizing s with
  | nil => exact ⟨s, hs, h⟩
  | cons w r ih =>
    obtain ⟨s', hw, h⟩ := exists_step h
    exact ih (fun s w' s' hw' => hstep s w' s' (List.mem_cons_of_mem _ hw'))
      (hstep s w s' List.mem_cons_self hw hs) h

theorem of_read_nil (h : s.read [] = .ok ls) :
    (∃ l, s.level.finish = .ok l) ∧ ∃ ls', s.outer.mapM Level.flush = .ok ls' := by
  obtain ⟨l, hl, h⟩ := Except.bind_eq_ok_iff.1 h
  obtain ⟨ls', hls, -⟩ := Except.map_eq_ok_iff.1 h
  exact ⟨⟨l, hl⟩, ls', hls⟩

theorem Step.spec_mem (h : Step s w s') (hs : s.level.spec ∈ everyCommand) :
    s'.level.spec ∈ everyCommand := by
  cases h with
  | word h => exact (Level.of_takeWord h).1 ▸ hs
  | enter hwaiting h => exact mem_everyCommand_of_member hs h
  | divider => exact hs
  | argument hmember hw h => exact (Level.taken_of_take h hw).spec ▸ hs

theorem Step.onlyWords (h : Step s w s') (hw : w ≠ "--") : s'.onlyWords = s.onlyWords := by
  cases h with
  | divider => exact absurd rfl hw
  | _ => rfl

theorem exists_take (hspec : s.level.spec ∈ everyCommand) (honly : s.onlyWords = false)
    (hw : IsOption w) (h : s.read (w :: rest) = .ok ls) :
    ∃ l, s.level.take w = .ok l ∧ read ⟨l, s.outer, false⟩ rest = .ok ls := by
  obtain ⟨s', hstep, h⟩ := exists_step h
  cases hstep with
  | word => cases honly
  | enter hwaiting hm =>
    cases (member?_of_hyphen hspec (ArgumentShape.of_head hw.1)).symm.trans hm
  | divider => exact absurd rfl hw.ne_divider
  | argument hmember hne htake => exact ⟨_, htake, h⟩

end Stand

end PromptDispatch

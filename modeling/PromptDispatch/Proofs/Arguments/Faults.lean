import PromptDispatch.Proofs.Arguments.Reading

/-!
# What a command line is refused for

A command line that is not carried out has a mistake, or asks about the program.  It can do the
latter only with an argument that asks (`AsksForHelp`): every fault of a command line without such
an argument is a mistake (`isMistake_of_ofArguments`).
-/

namespace PromptDispatch

/-- the command line is not carried out, and it did not ask for help or for the version -/
def UsageFault.IsMistake (f : UsageFault) : Prop := f ≠ .help ∧ f ≠ .version

instance (f : UsageFault) : Decidable f.IsMistake := inferInstanceAs (Decidable (_ ∧ _))

theorem UsageFault.exitCode_eq (f : UsageFault) :
    f.exitCode = if f.IsMistake then 2 else 0 := by
  cases f <;> rfl

def ArgumentShape.asks : ArgumentShape → Bool
  | .long name _ => name = "help" || name = "version"
  | .short letters => 'h' ∈ letters || 'V' ∈ letters
  | _ => false

/-- the argument asks about the program where it stands for a command or for options -/
def AsksForHelp (w : String) : Prop := w = "help" ∨ (ArgumentShape.of w.toList).asks = true

instance (w : String) : Decidable (AsksForHelp w) := inferInstanceAs (Decidable (_ ∨ _))

def OptionUse.asks : OptionUse → Bool
  | .help | .version => true
  | _ => false

theorem OptionUse.asks_of_takesValue {u : OptionUse} (h : u.takesValue = true) :
    u.asks = false := by
  cases u with
  | single => rfl
  | repeated => rfl
  | _ => cases h

theorem name_of_asks {c : CommandSpec} {o : OptionSpec} (hc : c ∈ everyCommand)
    (ho : o ∈ c.options) (hasks : o.use.asks = true) :
    (o.name = "help" ∨ o.name = "version") ∧ (o.letter = some 'h' ∨ o.letter = some 'V') := by
  have hnames : ∀ c ∈ everyCommand, ∀ o ∈ c.options, o.use.asks = true →
      (o.name = "help" ∨ o.name = "version") ∧ (o.letter = some 'h' ∨ o.letter = some 'V') := by
    decide
  exact hnames c hc o ho hasks

variable {f : UsageFault} {o : OptionSpec} {w : String}

theorem isMistake_of_read {form : ValueForm} (h : form.read w = .error f) : f.IsMistake := by
  cases form with
  | text => cases h
  | path =>
    rw [ValueForm.read] at h
    split at h
    · cases h
      decide
    · cases h
  | seconds =>
    obtain ⟨e, -, rfl⟩ := Except.mapError_eq_error_iff.1 h
    exact ⟨by simp, by simp⟩
  | setting =>
    obtain ⟨e, -, rfl⟩ := Except.mapError_eq_error_iff.1 h
    exact ⟨by simp, by simp⟩

namespace Level

variable {l l' : Level}

/-! ## levels -/

theorem isMistake_of_give (ho : o.use.asks = false) (h : l.give o w = .error f) :
    f.IsMistake := by
  rw [give] at h
  split at h
  · rename_i huse
    rw [huse] at ho
    cases ho
  · rename_i huse
    rw [huse] at ho
    cases ho
  · split at h
    · cases h
      decide
    · cases h
  · split at h
    · cases h
      decide
    · exact isMistake_of_read (Except.map_eq_error_iff.1 h)
  · exact isMistake_of_read (Except.map_eq_error_iff.1 h)

/-- what waits for a value takes one -/
def Sane (l : Level) : Prop :=
  ∀ o v, l.waiting = some (.option o v) → o.use.takesValue = true

theorem sane_of_waiting (h : l.waiting = none) : l.Sane := by
  intro o v hwaiting
  cases h.symm.trans hwaiting

theorem sane_of_give (h : l.give o w = .ok l') : l'.Sane := by
  obtain ⟨x, rfl⟩ := exists_of_give h
  exact sane_of_waiting rfl

theorem sane_of_await (ho : o.use.takesValue = true) (v : Option String) :
    (l.await (.option o v)).Sane := by
  rintro o' v' ⟨⟩
  exact ho

theorem isMistake_of_flush (hl : l.Sane) (h : l.flush = .error f) : f.IsMistake := by
  rw [flush] at h
  split at h
  · cases h
  · cases h
    decide
  · rename_i o v hwaiting
    exact isMistake_of_give (OptionUse.asks_of_takesValue (hl o _ hwaiting)) h
  · exact isMistake_of_read (Except.map_eq_error_iff.1 h)

theorem isMistake_of_given (hl : l.Sane) (ho : o.use.asks = false)
    (h : (l.flush.bind fun l => l.give o w) = .error f) : f.IsMistake := by
  rcases Except.bind_eq_error_iff.1 h with h | ⟨m, -, h⟩
  · exact isMistake_of_flush hl h
  · exact isMistake_of_give ho h

theorem isMistake_of_finish (hl : l.Sane) (h : l.finish = .error f) : f.IsMistake := by
  rcases Except.bind_eq_error_iff.1 h with h | ⟨m, -, h⟩
  · exact isMistake_of_flush hl h
  · split at h
    · cases h
      split <;> decide
    · split at h
      · cases h
        decide
      · cases h

theorem isMistake_of_takeWord (hl : l.Sane) {afterDivider : Bool}
    (h : l.takeWord afterDivider w = .error f) : f.IsMistake := by
  rw [takeWord] at h
  split at h
  · exact isMistake_of_flush hl (Except.map_eq_error_iff.1 h)
  · cases h
    rw [strayWord]
    split <;> decide

theorem sane_of_takeWord {afterDivider : Bool} (h : l.takeWord afterDivider w = .ok l') :
    l'.Sane := by
  rw [takeWord] at h
  split at h
  · obtain ⟨m, -, rfl⟩ := Except.map_eq_ok_iff.1 h
    rintro o v ⟨⟩
  · cases h

section
variable (hspec : l.spec ∈ everyCommand) (hl : l.Sane)
include hspec hl

theorem isMistake_of_takeLong {name : String} {value : Option String}
    (hname : name ≠ "help" ∧ name ≠ "version") (h : l.takeLong name value = .error f) :
    f.IsMistake := by
  rw [takeLong] at h
  split at h
  · cases h
    decide
  · rename_i o ho
    have hasks : o.use.asks = false := by
      by_contra hasks
      obtain ⟨hmem, rfl⟩ := mem_of_long? ho
      rcases (name_of_asks hspec hmem (by simpa using hasks)).1 with h | h
      · exact hname.1 h
      · exact hname.2 h
    split at h
    · cases h
      decide
    · exact isMistake_of_given hl hasks h
    · exact isMistake_of_given hl hasks h
    · exact isMistake_of_flush hl (Except.map_eq_error_iff.1 h)

theorem isMistake_of_takeShort {letters : List Char} (hletters : 'h' ∉ letters ∧ 'V' ∉ letters)
    (h : l.takeShort letters = .error f) : f.IsMistake := by
  induction letters generalizing l with
  | nil => cases h
  | cons c r ih =>
    obtain ⟨⟨hc, hr⟩, hcV, hrV⟩ : ('h' ≠ c ∧ 'h' ∉ r) ∧ 'V' ≠ c ∧ 'V' ∉ r := by
      simpa using hletters
    rw [takeShort] at h
    split at h
    · cases h
      decide
    · rename_i o ho
      have hasks : o.use.asks = false := by
        by_contra hasks
        obtain ⟨hmem, hletter⟩ := mem_of_short? ho
        have hname := (name_of_asks hspec hmem (by simpa using hasks)).2
        rw [hletter] at hname
        rcases hname with h | h <;> cases h
        · exact hc rfl
        · exact hcV rfl
      split at h
      · split at h
        · exact isMistake_of_flush hl (Except.map_eq_error_iff.1 h)
        · exact isMistake_of_given hl hasks h
        · exact isMistake_of_given hl hasks h
      · rcases Except.bind_eq_error_iff.1 h with h | ⟨m, hgiven, h⟩
        · exact isMistake_of_given hl hasks h
        · obtain ⟨m', hm, hgive⟩ := Except.bind_eq_ok_iff.1 hgiven
          have hspec' : m.spec = l.spec := (spec_of_give hgive).trans (of_flush hm).1
          exact ih (hspec' ▸ hspec) (sane_of_give hgive) ⟨hr, hrV⟩ h

theorem isMistake_of_take (hw : ¬AsksForHelp w) (h : l.take w = .error f) : f.IsMistake := by
  have hshape : ¬(ArgumentShape.of w.toList).asks = true := fun hasks => hw (.inr hasks)
  rw [take] at h
  split at h
  · rename_i name value hlong
    rw [hlong] at hshape
    exact isMistake_of_takeLong hspec hl (by simpa [ArgumentShape.asks] using hshape) h
  · rename_i letters hshort
    rw [hshort] at hshape
    exact isMistake_of_takeShort hspec hl (by simpa [ArgumentShape.asks] using hshape) h
  · split at h
    · cases h
    · exact isMistake_of_takeWord hl h

end

theorem sane_of_takeLong {name : String} {value : Option String}
    (h : l.takeLong name value = .ok l') : l'.Sane := by
  obtain ⟨o, m, -, -, ⟨hvalue, -, rfl⟩ | ⟨-, hgive⟩⟩ := of_takeLong h
  · exact sane_of_await hvalue none
  · exact sane_of_give hgive

theorem sane_of_takeShort (hl : l.Sane) {letters : List Char}
    (h : l.takeShort letters = .ok l') : l'.Sane := by
  induction letters generalizing l with
  | nil =>
    cases h
    exact hl
  | cons c r ih =>
    obtain ⟨o, m, -, -, ⟨hvalue, -, rfl⟩ | ⟨-, -, hgive⟩ | ⟨-, m', hgive, hrest⟩⟩ := of_takeShort h
    · exact sane_of_await hvalue none
    · exact sane_of_give hgive
    · exact ih (sane_of_give hgive) hrest

theorem sane_of_take (hl : l.Sane) (h : l.take w = .ok l') : l'.Sane := by
  rw [take] at h
  split at h
  · exact sane_of_takeLong h
  · exact sane_of_takeShort hl h
  · split at h
    · rename_i o hwaiting
      cases h
      exact sane_of_await (hl o none hwaiting) _
    · exact sane_of_takeWord h

end Level

/-! ## command lines -/

namespace Stand

variable {s : Stand} {args : List String}

/-- every level is sane -/
def Sane (s : Stand) : Prop := ∀ l ∈ s.level :: s.outer, l.Sane

theorem isMistake_of_read_nil (hs : s.Sane) (h : s.read [] = .error f) : f.IsMistake := by
  obtain ⟨hlevel, houter⟩ := List.forall_mem_cons.1 hs
  rcases Except.bind_eq_error_iff.1 h with h | ⟨l, -, h⟩
  · exact Level.isMistake_of_finish hlevel h
  · obtain ⟨m, hm, h⟩ := Except.exists_of_mapM_error (Except.map_eq_error_iff.1 h)
    exact Level.isMistake_of_flush (houter m hm) h

/-- A fault comes from an argument that asks, or is a mistake. -/
theorem isMistake_of_read (hspec : s.level.spec ∈ everyCommand) (hs : s.Sane)
    (hargs : ∀ w ∈ args, ¬AsksForHelp w) (h : s.read args = .error f) : f.IsMistake := by
  induction args generalizing s with
  | nil => exact isMistake_of_read_nil hs h
  | cons w r ih =>
    obtain ⟨hw, hr⟩ := List.forall_mem_cons.1 hargs
    obtain ⟨l, outer, onlyWords⟩ := s
    obtain ⟨hl, houter⟩ := List.forall_mem_cons.1 hs
    cases onlyWords with
    | true =>
      rcases Except.bind_eq_error_iff.1 h with h | ⟨l', hl', h⟩
      · exact Level.isMistake_of_takeWord hl h
      · have hspec' : l'.spec ∈ everyCommand := (Level.of_takeWord hl').1 ▸ hspec
        exact ih (s := ⟨l', outer, true⟩) hspec'
          (List.forall_mem_cons.2 ⟨Level.sane_of_takeWord hl', houter⟩) hr h
    | false =>
      rw [read, readLevels] at h
      split at h
      · rename_i hhelp
        have hhelp : w = "help" := by
          simp only [Bool.and_eq_true, decide_eq_true_eq] at hhelp
          exact hhelp.2
        exact absurd (.inl hhelp) hw
      · split at h
        · rename_i m hm
          split at hm
          · cases hm
          · exact ih (s := ⟨{ spec := m }, l :: outer, false⟩)
              (mem_everyCommand_of_member hspec hm)
              (List.forall_mem_cons.2 ⟨Level.sane_of_waiting rfl, hs⟩) hr h
        · split at h
          · exact ih (s := ⟨l, outer, true⟩) hspec hs hr h
          · rename_i hne
            rcases Except.bind_eq_error_iff.1 h with h | ⟨l', hl', h⟩
            · exact Level.isMistake_of_take hspec hl hw h
            · have hspec' : l'.spec ∈ everyCommand :=
                (Level.taken_of_take hl' hne).spec ▸ hspec
              exact ih (s := ⟨l', outer, false⟩) hspec'
                (List.forall_mem_cons.2 ⟨Level.sane_of_take hl hl', houter⟩) hr h

end Stand

theorem isMistake_of_ofArguments {args : List String} (hargs : ∀ w ∈ args, ¬AsksForHelp w)
    (h : Request.ofArguments args = .error f) : f.IsMistake := by
  have hread : Stand.start.read args = .error f := Except.map_eq_error_iff.1 h
  refine Stand.isMistake_of_read List.mem_cons_self ?_ hargs hread
  exact List.forall_mem_cons.2 ⟨Level.sane_of_waiting rfl, by simp [Stand.start]⟩

end PromptDispatch

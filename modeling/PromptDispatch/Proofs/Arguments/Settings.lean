import PromptDispatch.Arguments.Request
import PromptDispatch.Proofs.Except
import PromptDispatch.Proofs.Text.Search

/-!
# Settings on a command line

A setting is cut at its first equals sign (`readSetting_eq_ok_iff`).  Wherever a setting is given to
a command, in whichever spelling, it comes after those before it and changes nothing else
(`Level.leads_setting`), so that the settings of a run are those of its arguments, in order
(`ofArguments_run`).
-/

namespace PromptDispatch

/-! ## one setting -/

/-- the text gives the value to the name, which is what stands before the first equals sign -/
def Gives (text name value : String) : Prop := text = name ++ "=" ++ value ∧ '=' ∉ name.toList

instance (text name value : String) : Decidable (Gives text name value) :=
  inferInstanceAs (Decidable (_ ∧ _))

variable {text name value : String}

theorem Gives.toList (h : Gives text name value) :
    text.toList = name.toList ++ '=' :: value.toList := by
  rw [h.1, String.toList_append, String.toList_append, List.append_assoc]
  rfl

theorem Gives.exists_cons (h : Gives text name value) (hname : name ≠ "") :
    ∃ c r, text.toList = c :: r ∧ c ≠ '=' := by
  cases hcs : name.toList with
  | nil => exact absurd (String.toList_injective hcs) hname
  | cons c cs =>
    refine ⟨c, cs ++ '=' :: value.toList, by rw [h.toList, hcs, List.cons_append], ?_⟩
    rintro rfl
    exact h.2 (hcs ▸ List.mem_cons_self)

theorem readSetting_eq_ok_iff :
    readSetting text = .ok (name, value) ↔ Gives text name value ∧ name ≠ "" := by
  constructor
  · intro h
    rw [readSetting] at h
    split at h
    · cases h
    · rename_i c r hdrop
      obtain ⟨a, htext, ha⟩ := Text.exists_dropWhile_ne hdrop
      rw [htext, Text.takeWhile_ne_append ha] at h
      split at h
      · cases h
      · rename_i hne
        cases h
        refine ⟨⟨String.toList_injective ?_, by rwa [String.toList_ofList]⟩, fun hnil => hne ?_⟩
        · simp [htext]
        · simpa using hnil
  · rintro ⟨h, hne⟩
    have hname : name.toList ≠ [] := fun hnil => hne (String.toList_injective hnil)
    rw [readSetting, h.toList, Text.takeWhile_ne_append h.2, Text.dropWhile_ne_append h.2]
    dsimp only
    rw [if_neg hname, String.ofList_toList, String.ofList_toList]

theorem Gives.unique {name' value' : String} (h : Gives text name value)
    (h' : Gives text name' value') : name = name' ∧ value = value' := by
  have htake := Text.takeWhile_ne_append h.2 value.toList
  have hdrop := Text.dropWhile_ne_append h.2 value.toList
  rw [← h.toList, h'.toList] at htake hdrop
  rw [Text.takeWhile_ne_append h'.2] at htake
  rw [Text.dropWhile_ne_append h'.2] at hdrop
  exact ⟨String.toList_injective htake.symm, String.toList_injective (List.cons.inj hdrop).2.symm⟩

/-! ## spellings -/

/-- the ways to give a setting to a command -/
inductive Spelling
  | short
  | shortJoined
  | shortEquals
  | long
  | longEquals

def Spelling.words : Spelling → String → List String
  | .short, text => ["-e", text]
  | .shortJoined, text => ["-e" ++ text]
  | .shortEquals, text => ["-e=" ++ text]
  | .long, text => ["--env", text]
  | .longEquals, text => ["--env=" ++ text]

/-- an argument that begins with a hyphen is no value of the option before it -/
def Spelling.Fits : Spelling → String → Prop
  | .short, text | .long, text => text.toList.head? ≠ some '-'
  | _, _ => True

instance (sp : Spelling) (text : String) : Decidable (sp.Fits text) :=
  match sp with
  | .short | .long => inferInstanceAs (Decidable (_ ≠ _))
  | .shortJoined | .shortEquals | .longEquals => inferInstanceAs (Decidable True)

theorem Spelling.ne_divider {sp : Spelling} (hfits : sp.Fits text) {w : String}
    (hw : w ∈ sp.words text) : w ≠ "--" := by
  rintro rfl
  cases sp with
  | short | long =>
    simp only [words, List.mem_cons, List.not_mem_nil, or_false] at hw
    rcases hw with hw | rfl
    · exact absurd hw (by decide)
    · exact hfits rfl
  | shortJoined | shortEquals | longEquals =>
    have hchars := congrArg String.toList (List.mem_singleton.1 hw)
    rw [String.toList_append] at hchars
    simp at hchars

theorem ArgumentShape.of_eq_word {s : List Char} (h : s.head? ≠ some '-') : of s = .word := by
  cases s with
  | nil => rfl
  | cons c r =>
    have hc : c ≠ '-' := fun hc => h (by rw [hc]; rfl)
    simp [of, hc]

namespace Level

/-! ## levels that take settings -/

def settingOption : OptionSpec := { name := "env", letter := some 'e', use := .repeated .setting }

/-- the level is that of a command with the option for settings, whatever else it has -/
def TakesSettings (l : Level) : Prop :=
  ∃ name command options words, l.spec = .leaf name command (launchOptions ++ options) words

variable {l l' : Level}

theorem exists_of_give {o : OptionSpec} {v : String} (h : l.give o v = .ok l') :
    ∃ x, l' = l.add o.name x := by
  rw [give] at h
  split at h
  · cases h
  · cases h
  · split at h
    · cases h
    · cases h
      exact ⟨_, rfl⟩
  · split at h
    · cases h
    · obtain ⟨x, -, rfl⟩ := Except.map_eq_ok_iff.1 h
      exact ⟨x, rfl⟩
  · obtain ⟨x, -, rfl⟩ := Except.map_eq_ok_iff.1 h
    exact ⟨x, rfl⟩

theorem of_flush (h : l.flush = .ok l') :
    l'.spec = l.spec ∧ l.awaits = false ∧ l.wordCount = l'.words.length := by
  rw [flush] at h
  rw [awaits, wordCount]
  split at h
  · cases h
    simp [*]
  · cases h
  · obtain ⟨x, rfl⟩ := exists_of_give h
    simp [*, add]
  · obtain ⟨x, -, rfl⟩ := Except.map_eq_ok_iff.1 h
    simp [*]

theorem TakesSettings.of_spec (h : l.TakesSettings) (hspec : l'.spec = l.spec) :
    l'.TakesSettings := by
  obtain ⟨name, command, options, words, h⟩ := h
  exact ⟨name, command, options, words, hspec.trans h⟩

theorem TakesSettings.long? (h : l.TakesSettings) : l.spec.long? "env" = some settingOption := by
  obtain ⟨name, command, options, words, h⟩ := h
  rw [h]
  rfl

theorem TakesSettings.short? (h : l.TakesSettings) : l.spec.short? 'e' = some settingOption := by
  obtain ⟨name, command, options, words, h⟩ := h
  rw [h]
  rfl

theorem TakesSettings.member? (h : l.TakesSettings) (w : String) : l.spec.member? w = none := by
  obtain ⟨name, command, options, words, h⟩ := h
  rw [h]
  rfl

theorem TakesSettings.isGroup (h : l.TakesSettings) : l.spec.isGroup = false := by
  obtain ⟨name, command, options, words, h⟩ := h
  rw [h]
  rfl

/-- such a level has no subcommands: it takes an argument itself, unless only words are to follow -/
theorem TakesSettings.readLevels_cons (h : l.TakesSettings) (w : String) (r : List String)
    (outer : List Level) :
    readLevels (w :: r) l outer false =
      if w = "--" then readLevels r l outer true
      else (l.take w).bind fun l => readLevels r l outer false := by
  rw [readLevels, h.isGroup, h.member?, ite_self]
  simp

/-! ## a setting among other arguments -/

theorem give_setting (hgives : Gives text name value) (hname : name ≠ "") :
    l.give settingOption text = .ok (l.add "env" (.setting name value)) := by
  have hread : ValueForm.setting.read text = .ok (.setting name value) := by
    rw [ValueForm.read, readSetting_eq_ok_iff.2 ⟨hgives, hname⟩]
    rfl
  exact congrArg (Except.map (l.add "env")) hread

section
variable (htakes : l.TakesSettings) (hl : l.flush = .ok l')
include htakes hl

theorem takeShort_equals (v : List Char) :
    l.takeShort ('e' :: '=' :: v) = l'.give settingOption (String.ofList v) := by
  rw [takeShort, htakes.short?]
  dsimp only
  rw [hl]
  rfl

theorem takeShort_joined {c : Char} (hc : c ≠ '=') (r : List Char) :
    l.takeShort ('e' :: c :: r) = l'.give settingOption (String.ofList (c :: r)) := by
  rw [takeShort, htakes.short?]
  simp [hl, Except.bind, settingOption, OptionUse.takesValue, hc]

theorem takeLong_value (v : String) : l.takeLong "env" (some v) = l'.give settingOption v := by
  rw [takeLong, htakes.long?]
  dsimp only
  rw [hl]
  rfl

/-- a value that is part of the argument is given at once -/
theorem take_attached (hgives : Gives text name value) (hname : name ≠ "") {sp : Spelling}
    {w : String} (hw : sp.words text = [w]) : l.take w = l'.give settingOption text := by
  cases sp with
  | short => cases hw
  | long => cases hw
  | shortJoined =>
    cases hw
    obtain ⟨c, r, htext, hc⟩ := hgives.exists_cons hname
    have hshape : ArgumentShape.of ("-e" ++ text).toList = .short ('e' :: c :: r) := by
      rw [String.toList_append, htext]
      rfl
    rw [take, hshape]
    dsimp only
    rw [takeShort_joined htakes hl hc, ← htext, String.ofList_toList]
  | shortEquals =>
    cases hw
    have hshape : ArgumentShape.of ("-e=" ++ text).toList = .short ('e' :: '=' :: text.toList) := by
      rw [String.toList_append]
      rfl
    rw [take, hshape]
    dsimp only
    rw [takeShort_equals htakes hl, String.ofList_toList]
  | longEquals =>
    cases hw
    have hshape : ArgumentShape.of ("--env=" ++ text).toList =
        .long "env" (some (String.ofList text.toList)) := by
      rw [String.toList_append]
      rfl
    rw [take, hshape, String.ofList_toList]
    dsimp only
    rw [takeLong_value htakes hl]

/-- the option waits for its value -/
theorem take_detached {w : String} (hw : w = "-e" ∨ w = "--env") :
    l.take w = .ok (l'.await (.option settingOption none)) := by
  rcases hw with rfl | rfl
  · have hshape : ArgumentShape.of "-e".toList = .short ['e'] := rfl
    rw [take, hshape]
    dsimp only
    rw [takeShort, htakes.short?]
    dsimp only
    rw [hl]
    rfl
  · have hshape : ArgumentShape.of "--env".toList = .long "env" none := by decide
    rw [take, hshape]
    dsimp only
    rw [takeLong, htakes.long?]
    dsimp only
    rw [hl]
    rfl

end

/-- the arguments lead to a level that takes settings and, once what waits is read, is `l'` -/
def Leads (l : Level) (args : List String) (l' : Level) : Prop :=
  ∃ m, m.TakesSettings ∧ m.flush = .ok l' ∧ ∀ r outer,
    readLevels (args ++ r) l outer false = readLevels r m outer false

section
variable (htakes : l.TakesSettings) (hl : l.flush = .ok l')
include htakes hl

theorem leads_nil : l.Leads [] l' := ⟨l, htakes, hl, fun _ _ => rfl⟩

theorem takesSettings_of_flush {m : Level} (hm : m.spec = l'.spec) : m.TakesSettings :=
  htakes.of_spec (hm.trans (of_flush hl).1)

section
variable {sp : Spelling} (hfits : sp.Fits text) (hgives : Gives text name value) (hname : name ≠ "")
include hfits hgives hname

theorem leads_attached {w : String} (hw : sp.words text = [w]) :
    l.Leads [w] (l'.add "env" (.setting name value)) := by
  refine ⟨l'.add "env" (.setting name value), takesSettings_of_flush htakes hl rfl, rfl,
    fun r outer => ?_⟩
  have hne : w ≠ "--" := sp.ne_divider hfits (hw ▸ List.mem_singleton_self w)
  rw [List.singleton_append, htakes.readLevels_cons, if_neg hne,
    take_attached htakes hl hgives hname hw, give_setting hgives hname]
  rfl

theorem leads_detached {w : String} (hw : w = "-e" ∨ w = "--env")
    (hwords : sp.words text = [w, text]) (hhead : text.toList.head? ≠ some '-') :
    l.Leads [w, text] (l'.add "env" (.setting name value)) := by
  refine ⟨l'.await (.option settingOption (some text)), takesSettings_of_flush htakes hl rfl,
    give_setting hgives hname, fun r outer => ?_⟩
  have hne : ∀ w' ∈ [w, text], w' ≠ "--" := hwords ▸ fun w' => sp.ne_divider hfits
  have hwaiting : (l'.await (.option settingOption none)).TakesSettings :=
    takesSettings_of_flush htakes hl rfl
  have htake : (l'.await (.option settingOption none)).take text =
      .ok (l'.await (.option settingOption (some text))) := by
    rw [take, ArgumentShape.of_eq_word hhead]
    rfl
  calc readLevels (w :: text :: r) l outer false
      = readLevels (text :: r) (l'.await (.option settingOption none)) outer false := by
        rw [htakes.readLevels_cons, if_neg (hne w List.mem_cons_self),
          take_detached htakes hl hw]
        rfl
    _ = readLevels r (l'.await (.option settingOption (some text))) outer false := by
        rw [hwaiting.readLevels_cons, if_neg (hne text (by simp)), htake]
        rfl

/-- A setting comes after those before it, wherever it is given. -/
theorem leads_setting : l.Leads (sp.words text) (l'.add "env" (.setting name value)) := by
  cases sp with
  | short => exact leads_detached htakes hl hfits hgives hname (.inl rfl) rfl hfits
  | long => exact leads_detached htakes hl hfits hgives hname (.inr rfl) rfl hfits
  | shortJoined | shortEquals | longEquals =>
    exact leads_attached htakes hl hfits hgives hname rfl

end

end

theorem Leads.append {args args' : List String} {l'' : Level} (h : l.Leads args l')
    (h' : ∀ m : Level, m.TakesSettings → m.flush = .ok l' → m.Leads args' l'') :
    l.Leads (args ++ args') l'' := by
  obtain ⟨m, hm, hflush, hread⟩ := h
  obtain ⟨m', hm', hflush', hread'⟩ := h' m hm hflush
  refine ⟨m', hm', hflush', fun r outer => ?_⟩
  rw [List.append_assoc, hread, hread']

def addSettings (l : Level) (settings : List (String × String)) : Level :=
  settings.foldl (fun l e => l.add "env" (.setting e.1 e.2)) l

theorem leads_settings {given : List (Spelling × String)} {settings : List (String × String)}
    (hfits : ∀ g ∈ given, g.1.Fits g.2)
    (hread : (given.map Prod.snd).mapM readSetting = .ok settings) (htakes : l.TakesSettings)
    (hl : l.flush = .ok l') :
    l.Leads (given.flatMap fun g => g.1.words g.2) (l'.addSettings settings) := by
  induction given generalizing l l' settings with
  | nil =>
    cases hread
    exact leads_nil htakes hl
  | cons g r ih =>
    obtain ⟨hg, hr⟩ := List.forall_mem_cons.1 hfits
    rw [List.map_cons, List.mapM_cons] at hread
    obtain ⟨⟨name, value⟩, hsetting, hread⟩ := Except.bind_eq_ok_iff.1 hread
    obtain ⟨settings', hsettings, hread⟩ := Except.bind_eq_ok_iff.1 hread
    cases hread
    obtain ⟨hgives, hname⟩ := readSetting_eq_ok_iff.1 hsetting
    refine (leads_setting htakes hl hg hgives hname).append fun m hm hflush => ?_
    have hrest := ih hr hsettings hm hflush
    exact hrest

/-! ## the words of a command -/

theorem takeWord_of_flush (h : l.flush = .ok l') {spec : WordSpec}
    (hspec : l'.spec.words[l'.words.length]? = some spec) (w : String) :
    l.takeWord true w = .ok (l'.await (.word spec.form w)) := by
  obtain ⟨hspec', -, hcount⟩ := of_flush h
  rw [takeWord, hcount, ← hspec', hspec, h]
  rfl

theorem addSettings_eq (l : Level) (settings : List (String × String)) (hl : l.waiting = none) :
    l.addSettings settings =
      { l with values := l.values ++ settings.map fun e => ("env", .setting e.1 e.2) } := by
  induction settings generalizing l with
  | nil => simp [addSettings]
  | cons e r ih =>
    rw [addSettings, List.foldl_cons, ← addSettings, ih _ rfl]
    simp [add, hl]

section
variable {settings : List (String × String)}
  (hl : l.values = settings.map fun e => ("env", .setting e.1 e.2))
include hl

/-- what only settings were given to has them and no other value -/
theorem only_settings : l.settings = settings ∧ (∀ name, l.text? name = none) ∧
    (∀ name, l.seconds? name = none) ∧ ∀ name, name ≠ "env" → l.isGiven name = false := by
  refine ⟨?_, fun name => ?_, fun name => ?_, fun name hname => ?_⟩
  · rw [Level.settings, hl, List.filterMap_map]
    exact List.filterMap_some
  · rw [text?, hl, List.findSome?_map]
    simp [Function.comp_def]
  · rw [seconds?, hl, List.findSome?_map]
    simp [Function.comp_def]
  · rw [isGiven, hl, List.any_map]
    simp [Function.comp_def, Ne.symm hname]

end

end Level

/-! ## a run -/

def runSpec : CommandSpec :=
  .leaf "run" .run
    (launchOptions ++
      [{ name := "command", use := .single .text }, { name := "schema", use := .single .text }])
    [{ name := "agent" }, { name := "prompt" }]

theorem action_of_run {l : Level} {agent prompt : String} (hspec : l.spec = runSpec)
    (hwords : l.words = [.text agent, .text prompt]) :
    l.action = .run
      { agent, prompt, command := l.text? "command", settings := l.settings
        timeout := l.seconds? "timeout", schema := l.text? "schema" } := by
  simp [Level.action, hspec, runSpec, Level.word?, hwords]

theorem takesSettings_runSpec : Level.TakesSettings { spec := runSpec } := ⟨_, _, _, _, rfl⟩

/-- The settings of a run are those of its arguments, in order. -/
theorem ofArguments_run {given : List (Spelling × String)} {settings : List (String × String)}
    (hfits : ∀ g ∈ given, g.1.Fits g.2)
    (hread : (given.map Prod.snd).mapM readSetting = .ok settings) (agent prompt : String) :
    Request.ofArguments
        ("run" :: ((given.flatMap fun g => g.1.words g.2) ++ ["--", agent, prompt])) =
      .ok { action := .run { agent, prompt, settings } } := by
  obtain ⟨m, hm, hflush, hrest⟩ := Level.leads_settings hfits hread takesSettings_runSpec rfl
  rw [Level.addSettings_eq _ _ rfl] at hflush
  have hagent : m.takeWord true agent = .ok (Level.await _ (.word .text agent)) :=
    Level.takeWord_of_flush hflush rfl agent
  have hlevels : readLevels ["--", agent, prompt] m [{ spec := commandTree }] false =
      .ok [{ spec := runSpec, values := settings.map fun e => ("env", .setting e.1 e.2)
             words := [.text agent, .text prompt] }, { spec := commandTree }] := by
    rw [hm.readLevels_cons, if_pos rfl, readLevels, hagent]
    rfl
  have hargs : readLevels
        ("run" :: ((given.flatMap fun g => g.1.words g.2) ++ ["--", agent, prompt]))
        { spec := commandTree } [] false =
      readLevels ((given.flatMap fun g => g.1.words g.2) ++ ["--", agent, prompt])
        { spec := runSpec } [{ spec := commandTree }] false := rfl
  generalize hrun : Level.mk runSpec _ _ _ = level at hlevels
  have hvalues : level.values = settings.map fun e => ("env", .setting e.1 e.2) := by rw [← hrun]
  have hspec : level.spec = runSpec := by rw [← hrun]
  have hwords : level.words = [.text agent, .text prompt] := by rw [← hrun]
  obtain ⟨hsettings, htext, hseconds, hgiven⟩ := Level.only_settings hvalues
  have haction : level.action = .run { agent, prompt, settings } := by
    rw [action_of_run hspec hwords, hsettings, htext, htext, hseconds]
  have htree : Level.text? { spec := commandTree } "config" = none ∧
      Level.isGiven { spec := commandTree } "verbose" = false := ⟨rfl, rfl⟩
  rw [Request.ofArguments, hargs, hrest, hlevels]
  simp [Except.map, htext, hgiven, haction, htree]

end PromptDispatch

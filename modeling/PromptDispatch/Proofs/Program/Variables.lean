import PromptDispatch.Proofs.Arguments.Settings
import PromptDispatch.Proofs.Invocation.Environment
import PromptDispatch.Proofs.Program.Courses

/-!
# The variables of an agent

A run sets variables from its arguments over those of the agent's profile, and both over its own.
`ChildVariable` says which of the three gives a name its value; `environment_of_run` says that a
child of a run has these variables and no others, each once.
-/

namespace PromptDispatch

/-! ## arguments -/

section
variable {texts : List String} {settings : List (String × String)} {name value : String}

theorem map_of_mapM (h : texts.mapM readSetting = .ok settings) :
    texts.map readSetting = settings.map .ok := by
  induction texts generalizing settings with
  | nil =>
    cases h
    rfl
  | cons t r ih =>
    rw [List.mapM_cons] at h
    obtain ⟨e, he, h⟩ := Except.bind_eq_ok_iff.1 h
    obtain ⟨settings', hsettings, h⟩ := Except.bind_eq_ok_iff.1 h
    cases h
    rw [List.map_cons, List.map_cons, he, ih hsettings]

variable (h : texts.map readSetting = settings.map .ok)
include h

theorem mem_settings_iff : (name, value) ∈ settings ↔ ∃ t ∈ texts, Gives t name value := by
  constructor
  · intro hmem
    have hok : .ok (name, value) ∈ texts.map readSetting := h ▸ List.mem_map_of_mem hmem
    obtain ⟨t, ht, hread⟩ := List.mem_map.1 hok
    exact ⟨t, ht, (readSetting_eq_ok_iff.1 hread).1⟩
  · rintro ⟨t, ht, hgives⟩
    have hok : readSetting t ∈ settings.map .ok := h ▸ List.mem_map_of_mem ht
    obtain ⟨⟨name', value'⟩, hmem, hread⟩ := List.mem_map.1 hok
    obtain ⟨rfl, rfl⟩ := hgives.unique (readSetting_eq_ok_iff.1 hread.symm).1
    exact hmem

theorem lookup_settings_eq_none_iff :
    settings.reverse.lookup name = none ↔ ∀ t ∈ texts, ∀ v, ¬Gives t name v := by
  rw [Entries.lookup_reverse_eq_none_iff]
  constructor
  · exact fun hnone t ht v hgives => hnone (name, v) ((mem_settings_iff h).2 ⟨t, ht, hgives⟩) rfl
  · rintro hnone ⟨name', v⟩ he rfl
    obtain ⟨t, ht, hgives⟩ := (mem_settings_iff h).1 he
    exact hnone t ht v hgives

/-- the last argument that gives the name a value decides -/
theorem lookup_settings_eq_some_iff :
    settings.reverse.lookup name = some value ↔
      ∃ before t after, texts = before ++ t :: after ∧ Gives t name value ∧
        ∀ t' ∈ after, ∀ v, ¬Gives t' name v := by
  rw [Entries.lookup_reverse_eq_some_iff]
  constructor
  · rintro ⟨a, b, rfl, hb⟩
    rw [List.map_append, List.map_cons] at h
    obtain ⟨before, rest, rfl, -, hrest⟩ := List.map_eq_append_iff.1 h
    obtain ⟨t, after, rfl, ht, hafter⟩ := List.map_eq_cons_iff.1 hrest
    refine ⟨before, t, after, rfl, (readSetting_eq_ok_iff.1 ht).1, ?_⟩
    exact (lookup_settings_eq_none_iff hafter).1 (Entries.lookup_reverse_eq_none_iff.2 hb)
  · rintro ⟨before, t, after, rfl, hgives, hnone⟩
    rw [List.map_append, List.map_cons] at h
    obtain ⟨a, rest, rfl, -, hrest⟩ := List.map_eq_append_iff.1 h.symm
    obtain ⟨⟨name', value'⟩, b, rfl, ht, hafter⟩ := List.map_eq_cons_iff.1 hrest
    obtain ⟨rfl, rfl⟩ := hgives.unique (readSetting_eq_ok_iff.1 ht.symm).1
    refine ⟨a, b, rfl, ?_⟩
    exact Entries.lookup_reverse_eq_none_iff.1 ((lookup_settings_eq_none_iff hafter.symm).2 hnone)

end

/-! ## variables of a child -/

/-- What a child of a run has: for each name the value of the last argument that gives it one, or
else the one of the profile, or else, byte for byte, what the program itself has. -/
inductive ChildVariable (texts : List String) (profile : Dict String) (ambient : List RawVariable) :
    RawVariable → Prop
  | argument (before : List String) (text : String) (after : List String) (name value : String)
    (htexts : texts = before ++ text :: after) (hgives : Gives text name value)
    (hlast : ∀ t ∈ after, ∀ v, ¬Gives t name v) :
    ChildVariable texts profile ambient (.ofText (name, value))
  | profile (name value : String) (hprofile : profile.get? name = some value)
    (harguments : ∀ t ∈ texts, ∀ v, ¬Gives t name v) :
    ChildVariable texts profile ambient (.ofText (name, value))
  | ambient (w : RawVariable) (hw : w ∈ ambient)
    (harguments : ∀ t ∈ texts, ∀ name v, Gives t name v → w.name ≠ Text.encode name.toList)
    (hprofile : ∀ name v, profile.get? name = some v → w.name ≠ Text.encode name.toList) :
    ChildVariable texts profile ambient w

theorem childVariable_iff {texts : List String} {settings : List (String × String)}
    (h : texts.map readSetting = settings.map .ok) {profile : Dict String}
    {ambient : List RawVariable} (hambient : NamesDistinct ambient) {w : RawVariable} :
    w ∈ childEnvironment ambient
        (processEnvironment ambient (profile.overlay (Dict.ofList settings))) ↔
      ChildVariable texts profile ambient w := by
  have hget : ∀ name, (profile.overlay (Dict.ofList settings)).get? name =
      (settings.reverse.lookup name).or (profile.get? name) := fun name => by
    rw [Dict.get?_overlay, Dict.get?_ofList]
  rw [mem_childEnvironment hambient]
  constructor
  · rintro (⟨name, value, hset, rfl⟩ | ⟨hw, hunset⟩)
    · rw [hget, Option.or_eq_some_iff] at hset
      rcases hset with hset | ⟨hnone, hprofile⟩
      · obtain ⟨before, t, after, htexts, hgives, hlast⟩ := (lookup_settings_eq_some_iff h).1 hset
        exact .argument before t after name value htexts hgives hlast
      · exact .profile name value hprofile ((lookup_settings_eq_none_iff h).1 hnone)
    · refine .ambient w hw (fun t ht name v hgives => hunset name ?_) fun name v hprofile =>
        hunset name ?_
      · rw [hget, Option.isSome_or, Option.isSome_iff_ne_none.2 fun hnone =>
          (lookup_settings_eq_none_iff h).1 hnone t ht v hgives]
        rfl
      · rw [hget, Option.isSome_or, hprofile]
        simp
  · intro hw
    cases hw with
    | argument before t after name value htexts hgives hlast =>
      refine .inl ⟨name, value, ?_, rfl⟩
      rw [hget, (lookup_settings_eq_some_iff h).2 ⟨before, t, after, htexts, hgives, hlast⟩]
      rfl
    | profile name value hprofile harguments =>
      refine .inl ⟨name, value, ?_, rfl⟩
      rw [hget, (lookup_settings_eq_none_iff h).2 harguments, hprofile]
      rfl
    | ambient w hw harguments hprofile =>
      refine .inr ⟨hw, fun name hset => ?_⟩
      obtain ⟨value, hset⟩ := Option.isSome_iff_exists.1 hset
      rw [hget, Option.or_eq_some_iff] at hset
      rcases hset with hset | ⟨-, hset⟩
      · obtain ⟨before, t, after, rfl, hgives, -⟩ := (lookup_settings_eq_some_iff h).1 hset
        exact harguments t (by simp) name value hgives
      · exact hprofile name value hset

/-! ## runs -/

section
open Program

variable {o : Outside} {q : Request} {rq : RunRequest}

theorem childEnvironment_of_request {texts : List String} (hq : q.action = .run rq)
    (htexts : texts.mapM readSetting = .ok rq.settings) (hambient : NamesDistinct o.vars)
    {r : SpawnRequest} (hr : r ∈ requestsOf (outcome o q).effects) :
    ∃ c selection, loadConfig o q.config = .ok c ∧ c.select rq.agent = .ok selection ∧
      NamesDistinct (childEnvironment o.vars r.environment) ∧
      ∀ w, w ∈ childEnvironment o.vars r.environment ↔
        ChildVariable texts selection.environment o.vars w := by
  obtain ⟨l, s, hl, rfl⟩ := launches_of_request hr
  cases hl with
  | run rq' c selection timeout program words prompt hq' hconfig hselect htimeout hs hl =>
    obtain rfl : rq = rq' := Action.run.inj (hq.symm.trans hq')
    refine ⟨c, selection, hconfig, hselect, namesDistinct_childEnvironment hambient _, fun w => ?_⟩
    rw [hl]
    exact childVariable_iff (map_of_mapM htexts) hambient
  | exec rq' c timeout program words prompt hq' =>
    rw [hq] at hq'
    cases hq'

end

/-- **What a run leaves of the variables.**  The settings of a run are those of its arguments, in
whichever spellings.  A child of it has each variable once: with the value of the last argument that
gives the name one, or else with that of the agent's profile, or else as the program itself has it,
text or not; and it has no others.  To have no overrides is to have none to put over the variables.
-/
theorem environment_of_run (o : Program.Outside) (q : Request) (rq : RunRequest)
    (texts : List String) (hq : q.action = .run rq)
    (htexts : texts.mapM readSetting = .ok rq.settings) (hambient : NamesDistinct o.vars) :
    (∀ (given : List (Spelling × String)) (agent prompt : String), given.map Prod.snd = texts →
        (∀ g ∈ given, g.1.Fits g.2) →
        Request.ofArguments
            ("run" :: ((given.flatMap fun g => g.1.words g.2) ++ ["--", agent, prompt])) =
          .ok { action := .run { agent, prompt, settings := rq.settings } }) ∧
      (∀ r ∈ requestsOf (Program.outcome o q).effects,
        ∃ c selection, Program.loadConfig o q.config = .ok c ∧ c.select rq.agent = .ok selection ∧
          NamesDistinct (childEnvironment o.vars r.environment) ∧
          ∀ w, w ∈ childEnvironment o.vars r.environment ↔
            ChildVariable texts selection.environment o.vars w) ∧
      childEnvironment o.vars (processEnvironment o.vars .empty) =
        childEnvironment o.vars (some (mergeEnvironment (snapshot o.vars) .empty)) := by
  refine ⟨fun given agent prompt hgiven hfits => ?_,
    fun r hr => childEnvironment_of_request hq htexts hambient hr,
    childEnvironment_without_overrides hambient⟩
  exact ofArguments_run hfits (hgiven ▸ htexts) agent prompt

/-- a name that is given twice, one that is left to the profile, and a variable that is no text -/
theorem environment_of_run_layers :
    let o : Program.Outside :=
      { pathExists := fun path => path = "agentshot.yaml"
        readFile := fun _ => .ok ("agents:\n  fast:\n    kind: claude\n    environment:\n" ++
          "      A: profile\n      B: profile\n")
        input := .ok ""
        vars := [.ofText ("A", "parent"), ⟨[0x43], [0xFF]⟩]
        surroundings := fun _ => { spawn := fun _ => .error .notFound } }
    let rq : RunRequest :=
      { agent := "fast", prompt := "hi", settings := [("A", "1"), ("A", "x=y")] }
    let q : Request := { action := .run rq }
    Request.ofArguments ["run", "-e", "A=1", "--env=A=x=y", "--", "fast", "hi"] = .ok q ∧
      ∃ r ∈ requestsOf (Program.outcome o q).effects,
        NamesDistinct (childEnvironment o.vars r.environment) ∧
          ∀ w ∈ [.ofText ("A", "x=y"), .ofText ("B", "profile"), ⟨[0x43], [0xFF]⟩],
            w ∈ childEnvironment o.vars r.environment := by
  intro o rq q
  obtain ⟨hargs, hchild, -⟩ :=
    environment_of_run o q rq ["A=1", "A=x=y"] rfl rfl (by decide +kernel)
  have hrequests : requestsOf (Program.outcome o q).effects ≠ [] := by decide +kernel
  obtain ⟨r, hr⟩ := List.exists_mem_of_ne_nil _ hrequests
  obtain ⟨c, selection, hconfig, hselect, hdistinct, hiff⟩ := hchild r hr
  have hselected : ((Program.loadConfig o none).bind fun c => c.select "fast").map
      (·.environment.entries) = .ok [("A", "profile"), ("B", "profile")] := by decide +kernel
  have hprofile : selection.environment.entries = [("A", "profile"), ("B", "profile")] := by
    rw [show Program.loadConfig o none = .ok c from hconfig, Except.bind,
      show c.select "fast" = .ok selection from hselect] at hselected
    exact Except.ok.inj hselected
  have hgives : Gives "A=1" "A" "1" ∧ Gives "A=x=y" "A" "x=y" := ⟨by decide, by decide⟩
  have hname : ∀ t ∈ ["A=1", "A=x=y"], ∀ name v, Gives t name v → name = "A" := by
    intro t ht name v h
    rcases List.mem_pair.1 ht with rfl | rfl
    · exact (h.unique hgives.1).1
    · exact (h.unique hgives.2).1
  refine ⟨hargs [(.short, "A=1"), (.longEquals, "A=x=y")] "fast" "hi" rfl (by decide), r, hr,
    hdistinct, ?_⟩
  simp only [List.forall_mem_cons, hiff]
  refine ⟨.argument ["A=1"] "A=x=y" [] "A" "x=y" rfl hgives.2 nofun,
    .profile "B" "profile" ?_ fun t ht v h => ?_,
    .ambient _ (by decide) (fun t ht name v h => ?_) fun name v h => ?_, nofun⟩
  · rw [Dict.get?, hprofile]
    rfl
  · exact absurd (hname t ht "B" v h) (by decide)
  · rw [hname t ht name v h]
    decide
  · rw [Dict.get?_eq_some_iff_mem, hprofile] at h
    rcases List.mem_pair.1 h with h | h <;> cases h <;> decide

end PromptDispatch

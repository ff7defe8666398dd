import PromptDispatch.Proofs.Invocation.Courses
import PromptDispatch.Proofs.Text.Utf8

/-!
# The result of an invocation

The result of an invocation is a function of what happened.  `Happens` lists what can happen to a
request, in the order in which it is found out, and exactly one of these things does
(`Happens.unique`, `Launch.exists_happens`).  Both kinds of invocation report it by one law,
`Reports`:

* `Upshot.report`   the result that is made of what happened;
* `Reports.of_launch`   the law where there are words to start a process with;
* `reports_execute`, `reports_executeCommand`   the law, for each kind of invocation;
* `result_of_invocation`   for both, with the timeout and the output that are told.
-/

namespace PromptDispatch

/-! ## what can happen -/

inductive Upshot where
  /-- the context stopped it, before the start or while the child ran -/
  | stopped (reason : Interruption)
  /-- the process failed, with the output as far as it could be read -/
  | failed (fault : ProcessFault) (output : String)
  /-- the child exited well, with its output -/
  | ended (output : String)

def Upshot.report (label display : String) (clean : String → String) :
    Upshot → Except Failure String
  | .stopped .cancelled => .error (.cancelled label display)
  | .stopped (.timedOut timeout) => .error (.timedOut label display timeout)
  | .failed fault output => .error (.execution label display fault output)
  | .ended output => .ok (clean output)

/-- the output of a child whose state was lost; nothing if it cannot be read either -/
def salvaged : Except SystemFault (List UInt8) → String
  | .ok bytes => Launch.outputText bytes
  | .error _ => ""

/-- what happens to a child that was started -/
inductive ChildEnds (c : ChildRun) : Upshot → Prop
  | stopped (reason : Interruption) (hp : c.EndsAt ⟨.running, some reason⟩) :
    ChildEnds c (.stopped reason)
  | lost (fault : SystemFault) (interruption : Option Interruption)
    (hp : c.EndsAt ⟨.lost fault, interruption⟩) :
    ChildEnds c (.failed (.wait fault) (salvaged c.captured))
  | unread (status : WaitStatus) (interruption : Option Interruption) (fault : SystemFault)
    (hp : c.EndsAt ⟨.exited status, interruption⟩) (hcaptured : c.captured = .error fault) :
    ChildEnds c (.failed (.capture fault) "")
  | exitedBadly (status : WaitStatus) (interruption : Option Interruption) (bytes : List UInt8)
    (hp : c.EndsAt ⟨.exited status, interruption⟩) (hcaptured : c.captured = .ok bytes)
    (hstatus : status.success = false) :
    ChildEnds c (.failed (.exit status) (Launch.outputText bytes))
  | exitedWell (status : WaitStatus) (interruption : Option Interruption) (bytes : List UInt8)
    (hp : c.EndsAt ⟨.exited status, interruption⟩) (hcaptured : c.captured = .ok bytes)
    (hstatus : status.success = true) : ChildEnds c (.ended (Launch.outputText bytes))

/-- what happens to a request; each case says of those before it that they did not happen -/
inductive Happens (s : Surroundings) (r : SpawnRequest) : Upshot → Prop
  | stopped (reason : Interruption) (hcontext : s.interruption = some reason) :
    Happens s r (.stopped reason)
  | noFile (fault : SystemFault) (hcontext : s.interruption = none)
    (hfile : s.captureFile = .error fault) : Happens s r (.failed (.capture fault) "")
  | noChild (fault : SystemFault) (hcontext : s.interruption = none)
    (hfile : s.captureFile = .ok ()) (hspawn : s.spawn r = .error fault) :
    Happens s r (.failed (.spawn fault) "")
  | child (c : ChildRun) (u : Upshot) (hcontext : s.interruption = none)
    (hfile : s.captureFile = .ok ()) (hspawn : s.spawn r = .ok c) (hends : ChildEnds c u) :
    Happens s r u

/-! ## one thing at a time -/

/-- of two first polls that are not quiet neither comes before the other -/
theorem ChildRun.EndsAt.unique {c : ChildRun} {p p' : Poll} (h : c.EndsAt p) (h' : c.EndsAt p') :
    p = p' := by
  obtain ⟨quiet, rest, hpolls, hquiet, hp⟩ := h
  obtain ⟨quiet', rest', hpolls', hquiet', hp'⟩ := h'
  have hseen : quiet ++ [p] = quiet' ++ [p'] := by
    rw [← pollsSeen_append hquiet hp rest, ← pollsSeen_append hquiet' hp' rest', ← hpolls, hpolls']
  exact List.singleton_inj.1 (List.append_inj' hseen rfl).2

section
variable {s : Surroundings} {r : SpawnRequest} {u u' : Upshot} {c : ChildRun}

theorem ChildEnds.unique (h : ChildEnds c u) (h' : ChildEnds c u') : u = u' := by
  -- the poll at which the wait ends is the same in both
  cases h with
  | stopped reason hp =>
    cases h' with
    | stopped reason' hp' =>
      cases hp.unique hp'
      rfl
    | lost _ _ hp' | unread _ _ _ hp' | exitedBadly _ _ _ hp' | exitedWell _ _ _ hp' =>
      cases hp.unique hp'
  | lost fault interruption hp =>
    cases h' with
    | lost fault' interruption' hp' =>
      cases hp.unique hp'
      rfl
    | stopped _ hp' | unread _ _ _ hp' | exitedBadly _ _ _ hp' | exitedWell _ _ _ hp' =>
      cases hp.unique hp'
  | unread status interruption fault hp hcaptured =>
    cases h' with
    | stopped _ hp' | lost _ _ hp' => cases hp.unique hp'
    | unread _ _ _ _ hcaptured' =>
      cases hcaptured.symm.trans hcaptured'
      rfl
    | exitedBadly _ _ _ _ hcaptured' | exitedWell _ _ _ _ hcaptured' =>
      cases hcaptured.symm.trans hcaptured'
  | exitedBadly status interruption bytes hp hcaptured hstatus =>
    cases h' with
    | stopped _ hp' | lost _ _ hp' => cases hp.unique hp'
    | unread _ _ _ _ hcaptured' => cases hcaptured.symm.trans hcaptured'
    | exitedBadly _ _ _ hp' hcaptured' =>
      cases hp.unique hp'
      cases hcaptured.symm.trans hcaptured'
      rfl
    | exitedWell _ _ _ hp' _ hstatus' =>
      cases hp.unique hp'
      cases hstatus.symm.trans hstatus'
  | exitedWell status interruption bytes hp hcaptured hstatus =>
    cases h' with
    | stopped _ hp' | lost _ _ hp' => cases hp.unique hp'
    | unread _ _ _ _ hcaptured' => cases hcaptured.symm.trans hcaptured'
    | exitedBadly _ _ _ hp' _ hstatus' =>
      cases hp.unique hp'
      cases hstatus.symm.trans hstatus'
    | exitedWell _ _ _ _ hcaptured' =>
      cases hcaptured.symm.trans hcaptured'
      rfl

theorem Happens.unique (h : Happens s r u) (h' : Happens s r u') : u = u' := by
  cases h with
  | stopped reason hcontext =>
    cases h' with
    | stopped reason' hcontext' =>
      cases hcontext.symm.trans hcontext'
      rfl
    | noFile _ hcontext' | noChild _ hcontext' | child _ _ hcontext' =>
      cases hcontext.symm.trans hcontext'
  | noFile fault hcontext hfile =>
    cases h' with
    | stopped _ hcontext' => cases hcontext.symm.trans hcontext'
    | noFile _ _ hfile' =>
      cases hfile.symm.trans hfile'
      rfl
    | noChild _ _ hfile' | child _ _ _ hfile' => cases hfile.symm.trans hfile'
  | noChild fault hcontext hfile hspawn =>
    cases h' with
    | stopped _ hcontext' => cases hcontext.symm.trans hcontext'
    | noFile _ _ hfile' => cases hfile.symm.trans hfile'
    | noChild _ _ _ hspawn' =>
      cases hspawn.symm.trans hspawn'
      rfl
    | child _ _ _ _ hspawn' => cases hspawn.symm.trans hspawn'
  | child c _ hcontext hfile hspawn hends =>
    cases h' with
    | stopped _ hcontext' => cases hcontext.symm.trans hcontext'
    | noFile _ _ hfile' => cases hfile.symm.trans hfile'
    | noChild _ _ _ hspawn' => cases hspawn.symm.trans hspawn'
    | child _ _ _ _ hspawn' hends' =>
      cases hspawn.symm.trans hspawn'
      exact hends.unique hends'

/-! ## what is made of it -/

namespace Launch

theorem interrupted_eq_report (l : Launch) (reason : Interruption) (clean : String → String) :
    Except.error (l.interrupted reason) = (Upshot.stopped reason).report l.label l.display clean := by
  cases reason <;> rfl

theorem lost_eq_report (l : Launch) (fault : SystemFault)
    (captured : Except SystemFault (List UInt8)) (clean : String → String) :
    (l.lost fault captured).1.map clean =
      (Upshot.failed (.wait fault) (salvaged captured)).report l.label l.display clean := by
  cases captured <;> rfl

theorem exists_childEnds (l : Launch) (c : ChildRun) (clean : String → String) :
    ∃ u, ChildEnds c u ∧ (l.finish c).1.map clean = u.report l.label l.display clean := by
  have hfinish := l.finishes c
  generalize l.finish c = t at hfinish ⊢
  cases hfinish with
  | exited status interruption hp =>
    cases hcaptured : c.captured with
    | error fault => exact ⟨_, .unread status interruption fault hp hcaptured, rfl⟩
    | ok bytes =>
      cases hstatus : status.success with
      | false =>
        refine ⟨_, .exitedBadly status interruption bytes hp hcaptured hstatus, ?_⟩
        rw [Launch.exited, hstatus]
        rfl
      | true =>
        refine ⟨_, .exitedWell status interruption bytes hp hcaptured hstatus, ?_⟩
        rw [Launch.exited, hstatus]
        rfl
  | interrupted reason hp =>
    exact ⟨_, .stopped reason hp, l.interrupted_eq_report reason clean⟩
  | lost fault interruption hp =>
    exact ⟨_, .lost fault interruption hp, l.lost_eq_report fault c.captured clean⟩

/-- Something happens to the request of a launch, and it is reported. -/
theorem exists_happens (l : Launch) (s : Surroundings) (clean : String → String) :
    ∃ u, Happens s l.request u ∧ (l.run s).1.map clean = u.report l.label l.display clean := by
  have hcourse := l.course s
  generalize l.run s = t at hcourse ⊢
  cases hcourse with
  | stopped reason hcontext =>
    exact ⟨_, .stopped reason hcontext, l.interrupted_eq_report reason clean⟩
  | noFile fault hcontext hfile => exact ⟨_, .noFile fault hcontext hfile, rfl⟩
  | noChild fault hcontext hfile hspawn => exact ⟨_, .noChild fault hcontext hfile hspawn, rfl⟩
  | child c hcontext hfile hspawn =>
    obtain ⟨u, hends, hreport⟩ := l.exists_childEnds c clean
    exact ⟨u, .child c u hcontext hfile hspawn hends, hreport⟩

end Launch

end

/-! ## texts in their order -/

def checkTexts : List (String × String) → Except Failure Unit
  | [] => .ok ()
  | t :: r => (requireText t.1 t.2).bind fun _ => checkTexts r

theorem checkTexts_eq_ok_iff {texts : List (String × String)} :
    checkTexts texts = .ok () ↔ ∀ t ∈ texts, t.2 ≠ "" := by
  induction texts with
  | nil => simp [checkTexts]
  | cons t r ih =>
    rw [checkTexts, Except.check_bind_eq_ok_iff, requireText_eq_ok_iff, ih, List.forall_mem_cons]

theorem checkTexts_of_empty {before after : List (String × String)} {field : String}
    (h : ∀ t ∈ before, t.2 ≠ "") :
    checkTexts (before ++ (field, "") :: after) = .error (.validation field) := by
  induction before with
  | nil => rfl
  | cons t r ih =>
    obtain ⟨ht, hr⟩ := List.forall_mem_cons.1 h
    rw [List.cons_append, checkTexts, requireText_eq_ok_iff.2 ht]
    exact ih hr

theorem checkTexts_singleton (field text : String) :
    checkTexts [(field, text)] = requireText field text := by
  rw [checkTexts]
  cases requireText field text <;> rfl

theorem checkAgentTexts_eq (agent command prompt : String) :
    checkAgentTexts agent command prompt =
      checkTexts [("agent name", agent), ("agent command", command), ("prompt", prompt)] := by
  rw [checkTexts, checkTexts, checkTexts_singleton]
  rfl

theorem checkCommandTexts_eq (command prompt : String) :
    checkCommandTexts command prompt = checkTexts [("command", command), ("prompt", prompt)] := by
  rw [checkTexts, checkTexts_singleton]
  rfl

/-! ## the law -/

/-- How a result follows from what happened.  Of the named texts the first one that is empty is
reported; then, if there are no words to start a process with, why there are none; and then what
happens to the request with these words and the prompt, under the label and the command line that
has a placeholder for the prompt. -/
structure Reports (s : Surroundings) (texts : List (String × String))
    (words : Except Failure (List String)) (noWords : Failure) (label prompt : String)
    (environment : Option (List (String × String))) (clean : String → String)
    (result : Except Failure String) : Prop where
  empty : ∀ before field after, texts = before ++ (field, "") :: after →
    (∀ t ∈ before, t.2 ≠ "") → result = .error (.validation field)
  refused : ∀ f, (∀ t ∈ texts, t.2 ≠ "") → words = .error f → result = .error f
  wordless : (∀ t ∈ texts, t.2 ≠ "") → words = .ok [] → result = .error noWords
  launched : ∀ ws, (∀ t ∈ texts, t.2 ≠ "") → words = .ok ws → ws ≠ [] →
    ∃ r u, r.argv = ws ++ [prompt] ∧ r.environment = environment ∧
      (∀ u', Happens s r u' ↔ u' = u) ∧ result = u.report label (renderRedacted ws) clean

section
variable {s : Surroundings} {texts : List (String × String)} {words : Except Failure (List String)}
  {noWords f : Failure} {label prompt : String} {environment : Option (List (String × String))}
  {clean : String → String}

theorem Reports.of_empty (h : checkTexts texts = .error f) :
    Reports s texts words noWords label prompt environment clean (.error f) := by
  have hempty : ¬∀ t ∈ texts, t.2 ≠ "" := by
    rw [← checkTexts_eq_ok_iff, h]
    exact nofun
  refine ⟨fun before field after htexts hbefore => ?_, fun _ hall => absurd hall hempty,
    fun hall => absurd hall hempty, fun _ hall => absurd hall hempty⟩
  rw [htexts, checkTexts_of_empty hbefore] at h
  cases h
  rfl

section
variable (h : checkTexts texts = .ok ())
include h

theorem not_empty_of_checkTexts {before after : List (String × String)} {field : String} :
    texts ≠ before ++ (field, "") :: after := by
  rintro rfl
  exact checkTexts_eq_ok_iff.1 h (field, "") (List.mem_append_right _ List.mem_cons_self) rfl

theorem Reports.of_refused (hwords : words = .error f) :
    Reports s texts words noWords label prompt environment clean (.error f) := by
  subst hwords
  refine ⟨fun _ _ _ htexts => absurd htexts (not_empty_of_checkTexts h), fun f' _ hf => ?_,
    fun _ hwords => ?_, fun _ _ hwords => ?_⟩
  · cases hf
    rfl
  · cases hwords
  · cases hwords

theorem Reports.of_wordless (hwords : words = .ok []) :
    Reports s texts words noWords label prompt environment clean (.error noWords) := by
  subst hwords
  refine ⟨fun _ _ _ htexts => absurd htexts (not_empty_of_checkTexts h), fun _ _ hf => ?_,
    fun _ _ => rfl, fun ws _ hws hne => ?_⟩
  · cases hf
  · cases hws
    exact absurd rfl hne

theorem Reports.of_launch {program : String} {arguments : List String}
    (hwords : words = .ok (program :: arguments)) :
    Reports s texts words noWords label prompt environment clean
      (((promptLaunch label program arguments prompt environment).run s).1.map clean) := by
  subst hwords
  refine ⟨fun _ _ _ htexts => absurd htexts (not_empty_of_checkTexts h), fun _ _ hf => ?_,
    fun _ hws => ?_, fun ws _ hws _ => ?_⟩
  · cases hf
  · cases hws
  · cases hws
    obtain ⟨u, hu, hreport⟩ :=
      (promptLaunch label program arguments prompt environment).exists_happens s clean
    exact ⟨_, u, rfl, rfl, fun u' => ⟨fun hu' => hu'.unique hu, fun e => e ▸ hu⟩, hreport⟩

end

end

/-! ## both kinds of invocation -/

section
variable (resolver : Resolver) (s : Surroundings) (ambient : List RawVariable)
  (agent command prompt : String) (overrides : Dict String)

theorem reports_execute :
    Reports s [("agent name", agent), ("agent command", command), ("prompt", prompt)]
      (resolver agent command .oneShot) (.resolution (.noCommand agent)) agent prompt
      (processEnvironment ambient overrides)
      (fun raw => String.ofList (normalize agent raw.toList))
      (execute resolver s ambient agent command prompt overrides).1 := by
  have hcourse := execution resolver s ambient agent command prompt overrides
  generalize execute resolver s ambient agent command prompt overrides = t at hcourse ⊢
  cases hcourse with
  | invalid e htexts => exact .of_empty (checkAgentTexts_eq agent command prompt ▸ htexts)
  | refused e htexts hwords =>
    exact .of_refused (checkAgentTexts_eq agent command prompt ▸ htexts) hwords
  | wordless htexts hwords =>
    exact .of_wordless (checkAgentTexts_eq agent command prompt ▸ htexts) hwords
  | launched l program words htexts hwords hl =>
    rw [hl]
    exact .of_launch (checkAgentTexts_eq agent command prompt ▸ htexts) hwords

theorem reports_executeCommand :
    Reports s [("command", command), ("prompt", prompt)]
      (.ok ((Text.words command.toList).map String.ofList)) (.validation "command") command prompt
      (processEnvironment ambient overrides) id
      (executeCommand s ambient command prompt overrides).1 := by
  have hcourse := commandExecution s ambient command prompt overrides
  generalize executeCommand s ambient command prompt overrides = t at hcourse ⊢
  cases hcourse with
  | invalid e htexts => exact .of_empty (checkCommandTexts_eq command prompt ▸ htexts)
  | wordless htexts hwords =>
    refine .of_wordless (checkCommandTexts_eq command prompt ▸ htexts) ?_
    rw [hwords]
    rfl
  | launched l program words htexts hwords hl =>
    have hid : (l.run s).1 = (l.run s).1.map id := by
      rw [Except.map_id]
      rfl
    rw [hid, hl]
    refine .of_launch (checkCommandTexts_eq command prompt ▸ htexts) ?_
    rw [hwords]
    rfl

end

/-! ## what is told -/

theorem Context.eq_of_timedOut {c : Context} {flags : Flags} {start now : Instant}
    {d t : Timeout} (h : (c.timeout start d).interruption flags now = some (.timedOut t)) :
    t = d := by
  rw [interruption] at h
  split at h
  · cases h
  · rw [timeout] at h
    cases hend : start.after? d with
    | none =>
      rw [hend] at h
      cases h
    | some i =>
      rw [hend] at h
      simp only [Option.map_some] at h
      split at h
      · cases h
        rfl
      · cases h

/-- bytes that are those of a text are captured as this text -/
theorem Launch.outputText_encode (t : List Char) :
    outputText (Text.encode t) = String.ofList t := by
  rw [outputText, Text.decodeLossy_encode]

/-- **The result of an invocation follows from what happened.**  For an agent and for a command line,
the first text that is empty is reported, then why there are no words to start a process with, and
then the one thing that happened to the request: the context fired, before the start or while the
child ran; the process failed, with the output of a child that did not exit well as it is; or the
child exited well, with its output, which only an agent's name cleans.  A timeout that is told is
the one that was set, and the bytes of a text are told as this text. -/
theorem result_of_invocation (resolver : Resolver) (s : Surroundings)
    (ambient : List RawVariable) (agent command prompt : String) (overrides : Dict String) :
    Reports s [("agent name", agent), ("agent command", command), ("prompt", prompt)]
        (resolver agent command .oneShot) (.resolution (.noCommand agent)) agent prompt
        (processEnvironment ambient overrides)
        (fun raw => String.ofList (normalize agent raw.toList))
        (execute resolver s ambient agent command prompt overrides).1 ∧
      Reports s [("command", command), ("prompt", prompt)]
        (.ok ((Text.words command.toList).map String.ofList)) (.validation "command") command prompt
        (processEnvironment ambient overrides) id
        (executeCommand s ambient command prompt overrides).1 ∧
      (∀ (c : Context) (flags : Flags) (start now : Instant) (d t : Timeout),
        (c.timeout start d).interruption flags now = some (.timedOut t) → t = d) ∧
      ∀ t, Launch.outputText (Text.encode t) = String.ofList t :=
  ⟨reports_execute resolver s ambient agent command prompt overrides,
    reports_executeCommand s ambient command prompt overrides,
    fun _ _ _ _ _ _ => Context.eq_of_timedOut, Launch.outputText_encode⟩

/-- children that exit as the context is cancelled: the notice stays in the output of one that fails,
and is cleaned away from that of an agent which exits well -/
theorem result_of_invocation_exits :
    let output := "Loaded cached credentials.\nÄ"
    let s (code : Nat) : Surroundings :=
      { spawn := fun _ => .ok
          ⟨[⟨.running, none⟩, ⟨.exited (.ofExit code), some .cancelled⟩],
            .ok (Text.encode output.toList), ⟨_, List.mem_cons_of_mem _ List.mem_cons_self, rfl⟩⟩ }
    let resolver : Resolver := fun _ _ _ => .ok ["gemini", "-p"]
    (execute resolver (s 3) [] "gemini" "gemini" "hi" .empty).1 =
        .error (.execution "gemini" "gemini -p <prompt>" (.exit (.ofExit 3)) output) ∧
      (execute resolver (s 0) [] "gemini" "gemini" "hi" .empty).1 = .ok "Ä" ∧
      (executeCommand (s 0) [] " gemini  -p" "hi" .empty).1 = .ok output ∧
      (execute resolver (s 0) [] "gemini" "" "" .empty).1 = .error (.validation "agent command") := by
  intro output s resolver
  have htext : Launch.outputText (Text.encode output.toList) = output := by
    rw [Launch.outputText_encode, String.ofList_toList]
  have hends (code : Nat) (c : ChildRun) (r : SpawnRequest) (hc : (s code).spawn r = .ok c) :
      c.EndsAt ⟨.exited (.ofExit code), some .cancelled⟩ ∧
        c.captured = .ok (Text.encode output.toList) := by
    cases hc
    exact ⟨⟨[⟨.running, none⟩], [], rfl, by simp [Poll.isQuiet], rfl⟩, rfl⟩
  have happens (r : SpawnRequest) :
      Happens (s 3) r (.failed (.exit (.ofExit 3)) output) ∧ Happens (s 0) r (.ended output) := by
    obtain ⟨hp, hcaptured⟩ := hends 3 _ r rfl
    obtain ⟨hp', hcaptured'⟩ := hends 0 _ r rfl
    have hbad := ChildEnds.exitedBadly _ _ _ hp hcaptured (by decide)
    have hwell := ChildEnds.exitedWell _ _ _ hp' hcaptured' (by decide)
    rw [htext] at hbad hwell
    exact ⟨.child _ _ rfl rfl rfl hbad, .child _ _ rfl rfl rfl hwell⟩
  refine ⟨?_, ?_, ?_, ?_⟩
  · obtain ⟨r, u, -, -, hu, h⟩ := (result_of_invocation resolver (s 3) [] "gemini" "gemini" "hi"
      .empty).1.launched ["gemini", "-p"] (by decide) rfl (by decide)
    rw [h, ← (hu _).1 (happens r).1]
    rfl
  · obtain ⟨r, u, -, -, hu, h⟩ := (result_of_invocation resolver (s 0) [] "gemini" "gemini" "hi"
      .empty).1.launched ["gemini", "-p"] (by decide) rfl (by decide)
    rw [h, ← (hu _).1 (happens r).2]
    exact congrArg Except.ok (by decide +kernel)
  · obtain ⟨r, u, -, -, hu, h⟩ := (result_of_invocation resolver (s 0) [] "" " gemini  -p" "hi"
      .empty).2.1.launched ["gemini", "-p"] (by decide)
      (congrArg Except.ok (by decide +kernel)) (by decide)
    rw [h, ← (hu _).1 (happens r).2]
    rfl
  · exact (result_of_invocation resolver (s 0) [] "gemini" "" "" .empty).1.empty
      [("agent name", "gemini")] "agent command" [("prompt", "")] rfl (by decide)

end PromptDispatch

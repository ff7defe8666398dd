import Mathlib.Logic.Basic
import PromptDispatch.Invocation.Context

/-!
# Who is cancelled

Contexts and tokens hold a token each, and some steps let one holder share another's.  `tokenNumber`
follows this through a history without a look at flags, and `Session.after` is the session that the
history leads to:

* `Session.holds_after`   each name holds the token that the history says;
* `Session.isCancelled_after`   the flags that are raised are those of the cancelled tokens;
* `Session.reportsCancelled_after_iff`   who reports to be cancelled;
* `Session.report_step`   what a step leaves as it was;
* `cancellation_of_history`   the laws of cancellation.
-/

namespace PromptDispatch

/-! ## holders -/

inductive Holder where
  | context (name : String)
  | token (name : String)
  deriving DecidableEq, Repr

namespace ContextStep

def makes? : ContextStep → Option Holder
  | .background as | .withTimeout as _ | .timeout _ as _ | .clone _ as | .withToken _ _ as =>
    some (.context as)
  | .newToken as | .tokenOf _ as => some (.token as)
  | .cancel _ | .cancelToken _ => none

/-- the holders without which a step does nothing; the first of them lends its token -/
def needs : ContextStep → List Holder
  | .background _ | .withTimeout _ _ | .newToken _ => []
  | .timeout context _ _ | .clone context _ | .tokenOf context _ | .cancel context =>
    [.context context]
  | .withToken context token _ => [.token token, .context context]
  | .cancelToken token => [.token token]

def cancels? : ContextStep → Option Holder
  | .cancel context => some (.context context)
  | .cancelToken token => some (.token token)
  | _ => none

theorem makes?_of_cancels? {step : ContextStep} {target : Holder}
    (h : step.cancels? = some target) : step.makes? = none := by
  cases step with
  | cancel | cancelToken => rfl
  | _ => cases h

end ContextStep

/-! ## histories -/

/-- steps and their instants, from the last one back -/
abbrev History := List (Instant × ContextStep)

def tokensMade : History → Nat
  | [] => 0
  | (_, step) :: earlier => tokensMade earlier + if step.needs = [] then 1 else 0

/-- The token that a holder has after a history, by its number in the order in which they are made.
A step that needs nothing makes a token, and any other passes on the one of its lender. -/
def tokenNumber : History → Holder → Option Nat
  | [], _ => none
  | (_, step) :: earlier, h =>
    if step.makes? = some h ∧ ∀ n ∈ step.needs, (tokenNumber earlier n).isSome then
      match step.needs.head? with
      | none => some (tokensMade earlier)
      | some lender => tokenNumber earlier lender
    else tokenNumber earlier h

/-- some step of the history cancelled the token with this number, under whatever name -/
def TokenCancelled (hist : History) (n : Nat) : Prop :=
  ∃ later now step earlier target, hist = later ++ (now, step) :: earlier ∧
    step.cancels? = some target ∧ tokenNumber earlier target = some n

/-- some step of the history cancelled the token that a holder has after it -/
def CancelledIn (hist : History) (h : Holder) : Prop :=
  ∃ n, tokenNumber hist h = some n ∧ TokenCancelled hist n

theorem tokenCancelled_cons {now : Instant} {step : ContextStep} {earlier : History} {n : Nat} :
    TokenCancelled ((now, step) :: earlier) n ↔
      step.cancels?.bind (tokenNumber earlier) = some n ∨ TokenCancelled earlier n := by
  constructor
  · rintro ⟨later, now', step', earlier', target, heq, htarget, hn⟩
    cases later with
    | nil =>
      cases heq
      exact .inl (by rw [htarget]; exact hn)
    | cons e later =>
      cases heq
      exact .inr ⟨later, now', step', earlier', target, rfl, htarget, hn⟩
  · rintro (h | ⟨later, now', step', earlier', target, rfl, htarget, hn⟩)
    · obtain ⟨target, htarget, hn⟩ := Option.bind_eq_some_iff.1 h
      exact ⟨[], now, step, earlier, target, rfl, htarget, hn⟩
    · exact ⟨(now, step) :: later, now', step', earlier', target, rfl, htarget, hn⟩

theorem TokenCancelled.append {hist : History} {n : Nat} (h : TokenCancelled hist n)
    (later : History) : TokenCancelled (later ++ hist) n := by
  induction later with
  | nil => exact h
  | cons e r ih => exact tokenCancelled_cons.2 (.inr ih)

theorem tokenNumber_append {later : History} {h : Holder}
    (hlater : ∀ e ∈ later, e.2.makes? ≠ some h) (hist : History) :
    tokenNumber (later ++ hist) h = tokenNumber hist h := by
  induction later with
  | nil => rfl
  | cons e r ih =>
    obtain ⟨he, hr⟩ := List.forall_mem_cons.1 hlater
    rw [List.cons_append, tokenNumber, if_neg fun hc => he hc.1, ih hr]

/-! ## sessions -/

namespace Session

def after : History → Session
  | [] => {}
  | (now, step) :: earlier => (after earlier).step now step

def holds (s : Session) : Holder → Option Token
  | .context name => (s.context? name).map Context.token
  | .token name => s.token? name

def ReportsCancelled (s : Session) (now : Instant) : Holder → Prop
  | .context name => s.report now name = some .cancelled
  | .token name => s.tokenReport name = true

theorem holds_context (s : Session) (name : String) :
    s.holds (.context name) = (s.context? name).map Context.token := rfl

theorem holds_token (s : Session) (name : String) : s.holds (.token name) = s.token? name := rfl

@[simp] theorem holds_with_flags (s : Session) (flags : Flags) (h : Holder) :
    ({ s with flags } : Session).holds h = s.holds h := by
  cases h <;> rfl

/-! ## names -/

theorem lookup_filter_ne {α : Type} (l : List (String × α)) {name name' : String}
    (h : name' ≠ name) : (l.filter (·.1 ≠ name)).lookup name' = l.lookup name' := by
  induction l with
  | nil => rfl
  | cons e r ih =>
    by_cases he : e.1 = name
    · rw [List.filter_cons_of_neg (by simp [he]), ih, List.lookup_cons,
        beq_eq_false_iff_ne.2 (he ▸ h)]
    · rw [List.filter_cons_of_pos (by simp [he]), List.lookup_cons, List.lookup_cons, ih]

theorem lookup_rebind {α : Type} (l : List (String × α)) (name name' : String) (a : α) :
    ((name, a) :: l.filter (·.1 ≠ name)).lookup name' =
      if name = name' then some a else l.lookup name' := by
  rw [List.lookup_cons]
  by_cases h : name = name'
  · simp [h]
  · rw [beq_eq_false_iff_ne.2 (Ne.symm h), if_neg h]
    exact lookup_filter_ne l (Ne.symm h)

@[simp] theorem context?_setToken (s : Session) (name name' : String) (t : Token) :
    (s.setToken name t).context? name' = s.context? name' := rfl

@[simp] theorem context?_with_flags (s : Session) (flags : Flags) (name : String) :
    ({ s with flags } : Session).context? name = s.context? name := rfl

theorem context?_setContext (s : Session) (name name' : String) (c : Context) :
    (s.setContext name c).context? name' = if name = name' then some c else s.context? name' :=
  lookup_rebind s.contexts name name' c

theorem token?_setToken (s : Session) (name name' : String) (t : Token) :
    (s.setToken name t).token? name' = if name = name' then some t else s.token? name' :=
  lookup_rebind s.tokens name name' t

theorem holds_setContext (s : Session) (name : String) (c : Context) (h : Holder) :
    (s.setContext name c).holds h = if .context name = h then some c.token else s.holds h := by
  cases h with
  | token name' => rfl
  | context name' =>
    rw [holds_context, context?_setContext]
    by_cases hname : name = name' <;> simp [hname, holds_context]

theorem holds_setToken (s : Session) (name : String) (t : Token) (h : Holder) :
    (s.setToken name t).holds h = if .token name = h then some t else s.holds h := by
  cases h with
  | context name' => rfl
  | token name' =>
    rw [holds_token, token?_setToken]
    by_cases hname : name = name' <;> simp [hname, holds_token]

/-! ## one step -/

section
variable (s : Session) (now : Instant) (step : ContextStep)

/-- A step gives a token to what it makes, if all that it needs is there, and leaves the rest. -/
theorem holds_step (h : Holder) :
    (s.step now step).holds h =
      if step.makes? = some h ∧ ∀ n ∈ step.needs, (s.holds n).isSome then
        match step.needs.head? with
        | none => some ⟨s.flags.next⟩
        | some lender => s.holds lender
      else s.holds h := by
  cases step with
  | background as | withTimeout as d =>
    simp [Session.step, Flags.fresh, holds_setContext, ContextStep.makes?, ContextStep.needs,
      Context.background, Context.timeout]
  | newToken as =>
    simp [Session.step, Flags.fresh, holds_setToken, ContextStep.makes?, ContextStep.needs]
  | timeout context as d | clone context as =>
    cases hc : s.context? context <;>
      simp [Session.step, hc, holds_setContext, ContextStep.makes?, ContextStep.needs,
        Context.timeout, holds_context]
  | tokenOf context as =>
    cases hc : s.context? context <;>
      simp [Session.step, hc, holds_setToken, ContextStep.makes?, ContextStep.needs, holds_context]
  | withToken context token as =>
    cases hc : s.context? context <;> cases ht : s.token? token <;>
      simp [Session.step, hc, ht, holds_setContext, ContextStep.makes?, ContextStep.needs,
        Context.withToken, holds_context, holds_token]
  | cancel context =>
    cases hc : s.context? context <;> simp [Session.step, hc, ContextStep.makes?]
  | cancelToken token =>
    cases ht : s.token? token <;> simp [Session.step, ht, ContextStep.makes?]

theorem next_step :
    (s.step now step).flags.next = s.flags.next + if step.needs = [] then 1 else 0 := by
  cases step with
  | background | withTimeout | newToken => rfl
  | timeout context | clone context | tokenOf context | cancel context =>
    cases hc : s.context? context <;>
      simp [Session.step, hc, ContextStep.needs, setContext, setToken, Flags.cancel]
  | withToken context token =>
    cases hc : s.context? context <;> cases ht : s.token? token <;>
      simp [Session.step, hc, ht, ContextStep.needs, setContext]
  | cancelToken token =>
    cases ht : s.token? token <;> simp [Session.step, ht, ContextStep.needs, Flags.cancel]

theorem raised_step :
    (s.step now step).flags.raised =
      match step.cancels?.bind s.holds with
      | some t => t.index :: s.flags.raised
      | none => s.flags.raised := by
  cases step with
  | background | withTimeout | newToken => rfl
  | timeout context | clone context | tokenOf context =>
    cases hc : s.context? context <;>
      simp [Session.step, hc, ContextStep.cancels?, setContext, setToken]
  | withToken context token =>
    cases hc : s.context? context <;> cases ht : s.token? token <;>
      simp [Session.step, hc, ht, ContextStep.cancels?, setContext]
  | cancel context =>
    cases hc : s.context? context <;>
      simp [Session.step, hc, ContextStep.cancels?, holds_context, Flags.cancel]
  | cancelToken token =>
    cases ht : s.token? token <;>
      simp [Session.step, ht, ContextStep.cancels?, holds_token, Flags.cancel]

variable {s step}

theorem context?_step {name : String} (h : step.makes? ≠ some (.context name)) :
    (s.step now step).context? name = s.context? name := by
  have hne : ∀ as, step.makes? = some (.context as) → as ≠ name := fun as has heq =>
    h (heq ▸ has)
  cases step with
  | background as | withTimeout as d =>
    simp [Session.step, context?_setContext, hne as rfl]
  | newToken as => rfl
  | timeout context as d | clone context as =>
    cases hc : s.context? context <;>
      simp [Session.step, hc, context?_setContext, hne as rfl]
  | tokenOf context | cancel context => cases hc : s.context? context <;> simp [Session.step, hc]
  | withToken context token as =>
    cases hc : s.context? context <;> cases ht : s.token? token <;>
      simp [Session.step, hc, ht, context?_setContext, hne as rfl]
  | cancelToken token => cases ht : s.token? token <;> simp [Session.step, ht]

end

/-! ## reports -/

theorem interruption_eq_cancelled_iff (c : Context) (flags : Flags) (now : Instant) :
    c.interruption flags now = some .cancelled ↔ flags.isCancelled c.token = true := by
  rw [Context.interruption]
  split
  · simp [*]
  · split
    · simp [*]
    · split <;> simp [*]

theorem reportsCancelled_iff (s : Session) (now : Instant) (h : Holder) :
    s.ReportsCancelled now h ↔ ∃ t, s.holds h = some t ∧ s.flags.isCancelled t = true := by
  cases h with
  | context name =>
    simp only [ReportsCancelled, report, Option.bind_eq_some_iff, interruption_eq_cancelled_iff,
      holds_context, Option.map_eq_some_iff, exists_exists_and_eq_and]
  | token name =>
    rw [ReportsCancelled, tokenReport, holds_token]
    cases s.token? name <;> simp

section
variable {s : Session} {now : Instant} {step : ContextStep}

theorem interruption_step {c : Context} (h : step.cancels?.bind s.holds ≠ some c.token)
    (now' : Instant) :
    c.interruption (s.step now step).flags now' = c.interruption s.flags now' := by
  have hcancelled :
      (s.step now step).flags.isCancelled c.token = s.flags.isCancelled c.token := by
    rw [Flags.isCancelled, Flags.isCancelled, raised_step]
    cases ht : step.cancels?.bind s.holds with
    | none => rfl
    | some t =>
      have hne : c.token.index ≠ t.index := fun heq =>
        h (ht.trans (congrArg some (congrArg Token.mk heq).symm))
      simp [hne]
  rw [Context.interruption, Context.interruption, hcancelled]

/-- A step changes the report of no context but what it makes or what holds the token it cancels. -/
theorem report_step {name : String} (hmakes : step.makes? ≠ some (.context name))
    (hcancels : ∀ t, s.holds (.context name) = some t → step.cancels?.bind s.holds ≠ some t)
    (now' : Instant) : (s.step now step).report now' name = s.report now' name := by
  rw [report, report, context?_step now hmakes]
  cases hc : s.context? name with
  | none => rfl
  | some c =>
    have hheld : s.holds (.context name) = some c.token := by rw [holds_context, hc]; rfl
    exact interruption_step (hcancels c.token hheld) now'

end

/-! ## after a history -/

theorem next_after (hist : History) : (after hist).flags.next = tokensMade hist := by
  induction hist with
  | nil => rfl
  | cons e earlier ih => rw [after, next_step, ih, tokensMade]

/-- Each holder has the token that the history says. -/
theorem holds_after (hist : History) (h : Holder) :
    (after hist).holds h = (tokenNumber hist h).map Token.mk := by
  induction hist generalizing h with
  | nil => cases h <;> rfl
  | cons e earlier ih =>
    rw [after, holds_step, tokenNumber, next_after]
    simp only [ih, Option.isSome_map]
    split
    · split <;> rfl
    · rfl

theorem mem_raised_after (hist : History) (n : Nat) :
    n ∈ (after hist).flags.raised ↔ TokenCancelled hist n := by
  induction hist with
  | nil =>
    refine ⟨nofun, ?_⟩
    rintro ⟨later, now, step, earlier, target, h, -⟩
    cases later <;> cases h
  | cons e earlier ih =>
    obtain ⟨now, step⟩ := e
    have htarget : step.cancels?.bind (after earlier).holds =
        (step.cancels?.bind (tokenNumber earlier)).map Token.mk := by
      cases step.cancels? with
      | none => rfl
      | some target => exact holds_after earlier target
    rw [after, raised_step, htarget, tokenCancelled_cons, ← ih]
    cases step.cancels?.bind (tokenNumber earlier) with
    | none => simp
    | some n' => simp [eq_comm]

/-- The flags that are raised are those of the tokens that were cancelled. -/
theorem isCancelled_after (hist : History) (t : Token) :
    (after hist).flags.isCancelled t = true ↔ TokenCancelled hist t.index := by
  rw [Flags.isCancelled, decide_eq_true_iff, mem_raised_after]

/-- A context or a token reports to be cancelled if the token that it holds was. -/
theorem reportsCancelled_after_iff (hist : History) (now : Instant) (h : Holder) :
    (after hist).ReportsCancelled now h ↔ CancelledIn hist h := by
  simp only [reportsCancelled_iff, holds_after, isCancelled_after, Option.map_eq_some_iff,
    CancelledIn, exists_exists_and_eq_and]

/-- a context that is cancelled stays so, whatever becomes of its name -/
theorem interruption_stays {c : Context} {hist : History} {now : Instant}
    (h : c.interruption (after hist).flags now = some .cancelled) (later : History)
    (now' : Instant) : c.interruption (after (later ++ hist)).flags now' = some .cancelled := by
  rw [interruption_eq_cancelled_iff, isCancelled_after] at h ⊢
  exact h.append later

theorem reportsCancelled_stays {hist : History} {now : Instant} {h : Holder}
    (hcancelled : (after hist).ReportsCancelled now h) {later : History}
    (hlater : ∀ e ∈ later, e.2.makes? ≠ some h) (now' : Instant) :
    (after (later ++ hist)).ReportsCancelled now' h := by
  rw [reportsCancelled_after_iff] at hcancelled ⊢
  obtain ⟨n, hn, hcancelled⟩ := hcancelled
  exact ⟨n, (tokenNumber_append hlater hist).trans hn, hcancelled.append later⟩

theorem report_after_cancel {hist : History} {step : ContextStep} {target : Holder} {name : String}
    (hstep : step.cancels? = some target)
    (hother : tokenNumber hist (.context name) ≠ tokenNumber hist target) (now now' : Instant) :
    (after ((now, step) :: hist)).report now' name = (after hist).report now' name := by
  have hmakes : step.makes? ≠ some (.context name) := by
    rw [ContextStep.makes?_of_cancels? hstep]
    exact nofun
  refine report_step hmakes (fun t ht hcancel => hother ?_) now'
  rw [hstep, Option.bind_some, ← ht, holds_after, holds_after] at hcancel
  exact (Option.map_injective (fun _ _ => congrArg Token.index) hcancel).symm

end Session

/-! ## the laws -/

/-- **A context is cancelled exactly where its token is.**  After every history a context or a token
reports to be cancelled if and only if some step cancelled the token that it holds, under whatever
name and whether it was shared before or after.  It stays cancelled until its name is given away,
and as a value for ever.  To cancel a token changes the report of no context that holds another, and
a step that cancels nothing changes no report but that of what it makes. -/
theorem cancellation_of_history (hist : History) :
    (∀ now h, (Session.after hist).ReportsCancelled now h ↔ CancelledIn hist h) ∧
      (∀ now h later, (Session.after hist).ReportsCancelled now h →
        (∀ e ∈ later, e.2.makes? ≠ some h) →
          ∀ now', (Session.after (later ++ hist)).ReportsCancelled now' h) ∧
      (∀ now (c : Context) later, c.interruption (Session.after hist).flags now = some .cancelled →
        ∀ now', c.interruption (Session.after (later ++ hist)).flags now' = some .cancelled) ∧
      (∀ now step target name, step.cancels? = some target →
        tokenNumber hist (.context name) ≠ tokenNumber hist target →
          ∀ now', (Session.after ((now, step) :: hist)).report now' name =
            (Session.after hist).report now' name) ∧
      ∀ now step, step.cancels? = none →
        (∀ name, step.makes? ≠ some (.context name) →
          ∀ now', (Session.after ((now, step) :: hist)).report now' name =
            (Session.after hist).report now' name) ∧
        ∀ (c : Context) now', c.interruption (Session.after ((now, step) :: hist)).flags now' =
          c.interruption (Session.after hist).flags now' := by
  refine ⟨Session.reportsCancelled_after_iff hist,
    fun _ _ _ h hlater => Session.reportsCancelled_stays h hlater,
    fun _ _ later h => Session.interruption_stays h later,
    fun now _ _ _ hstep hother => Session.report_after_cancel hstep hother now,
    fun now step hstep => ⟨fun name hmakes => ?_, fun c => ?_⟩⟩
  · exact Session.report_step hmakes (by simp [hstep])
  · exact Session.interruption_step (by simp [hstep])

/-- a clone that is made after its context was cancelled by a token of it, and another context -/
theorem cancellation_of_history_clone :
    let now : Instant := default
    let earlier : History :=
      [(now, .tokenOf "a" "t"), (now, .background "c"), (now, .withTimeout "a" default)]
    let hist : History := (now, .clone "a" "b") :: (now, .cancelToken "t") :: earlier
    (Session.after hist).ReportsCancelled now (.context "b") ∧
      (Session.after hist).report now "c" = none := by
  intro now earlier hist
  have hcancelled : CancelledIn hist (.context "b") :=
    ⟨0, by decide, [(now, .clone "a" "b")], now, .cancelToken "t", earlier, .token "t", rfl, rfl,
      by decide⟩
  have hcancel := (cancellation_of_history earlier).2.2.2.1 now (.cancelToken "t") (.token "t") "c"
    rfl (by decide) now
  have hclone := ((cancellation_of_history ((now, .cancelToken "t") :: earlier)).2.2.2.2 now
    (.clone "a" "b") rfl).1 "c" (by decide) now
  exact ⟨((cancellation_of_history hist).1 now (.context "b")).2 hcancelled, hclone.trans hcancel⟩

end PromptDispatch

import PromptDispatch.Proofs.Schema.Batch

/-!
# The registry of a process over time

A process is asked, step by step, to install registries, and for the one that it has.  What its slot
holds is told by the steps alone: it is the registry of the first attempt that gets past
registration, `firstRegistry`.

* `Slot.installed_step`, `Slot.installed_after`   one step, and any number of steps;
* `Slot.step_install_of_error`, `Slot.step_install_of_empty`, `Slot.step_install_of_filled`
  what an attempt comes to;
* `slot_written_once`   the law of the slot.
-/

namespace PromptDispatch

/-! ## steps -/

inductive SlotStep where
  /-- registers descriptors on a new builder and installs what it was sealed to -/
  | install (ds : List Descriptor)
  | global
  | lookup (label : String)

inductive SlotAnswer where
  | installed (answer : Except Failure (Option Registry))
  | global (r : Option Registry)
  | found (d : Option Descriptor)

/-- the registry of an attempt that gets past registration -/
def SlotStep.sealed? : SlotStep → Option Registry
  | .install ds => (Registry.ofDescriptors ds).toOption
  | _ => none

/-- the registry of the first attempt that gets past registration -/
def firstRegistry (steps : List SlotStep) : Option Registry := steps.findSome? SlotStep.sealed?

theorem firstRegistry_cons (x : SlotStep) (r : List SlotStep) :
    firstRegistry (x :: r) = x.sealed?.or (firstRegistry r) := by
  rw [firstRegistry, List.findSome?_cons]
  cases x.sealed? <;> rfl

theorem firstRegistry_append (a b : List SlotStep) :
    firstRegistry (a ++ b) = (firstRegistry a).or (firstRegistry b) :=
  List.findSome?_append

namespace Slot

variable {s : Slot} {ds : List Descriptor} {r r' : Registry} {e : SchemaFault}

/-- the slot after a step, and the answer -/
def step (s : Slot) : SlotStep → Slot × SlotAnswer
  | .install ds => ((s.fill ds).1, .installed (((s.fill ds).2.map some).mapError .schema))
  | .global => (s, .global s.installed)
  | .lookup label => (s, .found (s.lookup label))

def after (s : Slot) : List SlotStep → Slot
  | [] => s
  | x :: r => (s.step x).1.after r

/-! ## one attempt -/

theorem install_of_empty (hs : s.installed = none) (r : Registry) :
    s.install r = ({ installed := some r }, .ok r) := by
  rw [install, hs]
  rfl

/-- a slot that holds a registry refuses every other one, and keeps its own -/
theorem install_of_filled (hs : s.installed = some r') (r : Registry) :
    s.install r = (s, .error .alreadyInstalled) := by
  rw [install, hs]
  rfl

/-- registration comes before the slot is looked at -/
theorem step_install_of_error (h : Registry.ofDescriptors ds = .error e) :
    s.step (.install ds) = (s, .installed (.error (.schema e))) := by
  rw [step, fill, h]
  rfl

theorem step_install_of_empty (hs : s.installed = none) (h : Registry.ofDescriptors ds = .ok r) :
    s.step (.install ds) = ({ installed := some r }, .installed (.ok (some r))) := by
  have hfill : s.fill ds = ({ installed := some r }, .ok r) := by
    rw [fill, h]
    exact install_of_empty hs r
  rw [step, hfill]
  rfl

theorem step_install_of_filled (hs : s.installed = some r')
    (h : Registry.ofDescriptors ds = .ok r) :
    s.step (.install ds) = (s, .installed (.error (.schema .alreadyInstalled))) := by
  have hfill : s.fill ds = (s, .error .alreadyInstalled) := by
    rw [fill, h]
    exact install_of_filled hs r
  rw [step, hfill]
  rfl

/-! ## any steps -/

/-- One step: a slot that holds a registry keeps it, and an empty one takes that of the step. -/
theorem installed_step (s : Slot) (x : SlotStep) :
    (s.step x).1.installed = s.installed.or x.sealed? := by
  cases x with
  | global | lookup => exact (Option.or_none).symm
  | install ds =>
    rw [SlotStep.sealed?]
    cases h : Registry.ofDescriptors ds with
    | error e =>
      rw [step_install_of_error h]
      exact (Option.or_none).symm
    | ok r =>
      cases hs : s.installed with
      | none =>
        rw [step_install_of_empty hs h]
        rfl
      | some r' =>
        rw [step_install_of_filled hs h, hs]
        rfl

/-- Any steps: the first registry stays. -/
theorem installed_after (s : Slot) (steps : List SlotStep) :
    (s.after steps).installed = s.installed.or (firstRegistry steps) := by
  induction steps generalizing s with
  | nil => exact (Option.or_none).symm
  | cons x r ih =>
    rw [after, ih, installed_step, firstRegistry_cons, Option.or_assoc]

theorem installed_after_empty (steps : List SlotStep) :
    (empty.after steps).installed = firstRegistry steps :=
  (installed_after empty steps).trans Option.none_or

theorem step_global_after_empty (steps : List SlotStep) :
    (empty.after steps).step .global = (empty.after steps, .global (firstRegistry steps)) := by
  rw [step, installed_after_empty]

theorem step_lookup_after_empty (steps : List SlotStep) (label : String) :
    (empty.after steps).step (.lookup label) =
      (empty.after steps, .found ((firstRegistry steps).bind (·.lookup label))) := by
  rw [step, lookup, installed_after_empty]

end Slot

/-! ## the law of the slot -/

/-- **The slot is written once.**  After any steps the registry of the process, and every label in
it, is answered from the first attempt that got past registration, and before there was one there is
none.  The first such attempt answers with its own registry, which every later state keeps.  After
it each attempt fails and changes nothing, and so does, before and after, one whose registration
fails because a descriptor is malformed or a label is repeated. -/
theorem slot_written_once (before : List SlotStep) :
    let s := Slot.empty.after before
    let first := firstRegistry before
    (s.step .global = (s, .global first) ∧
      ∀ label, s.step (.lookup label) = (s, .found (first.bind (·.lookup label)))) ∧
    (∀ ds r, first = none → Registry.ofDescriptors ds = .ok r →
      (s.step (.install ds)).2 = .installed (.ok (some r)) ∧
        ∀ rest, let t := Slot.empty.after (before ++ .install ds :: rest)
          t.step .global = (t, .global (some r)) ∧
            ∀ label, t.step (.lookup label) = (t, .found (r.lookup label))) ∧
    (∀ ds, first.isSome = true →
      ∃ fault, s.step (.install ds) = (s, .installed (.error (.schema fault)))) ∧
    (∀ ds, ¬((∀ d ∈ ds, d.WellFormed) ∧ (ds.map (·.label)).Nodup) →
      ∃ fault, s.step (.install ds) = (s, .installed (.error (.schema fault)))) ∧
    (∀ ds, ((∀ d ∈ ds, d.WellFormed) ∧ (ds.map (·.label)).Nodup) ↔
      ∃ r, Registry.ofDescriptors ds = .ok r) := by
  intro s first
  have hinstalled : s.installed = first := Slot.installed_after_empty before
  refine ⟨⟨Slot.step_global_after_empty before, Slot.step_lookup_after_empty before⟩,
    fun ds r hfirst hr => ⟨?_, fun rest => ?_⟩, fun ds hfirst => ?_, fun ds hds => ?_,
    fun ds => Registry.exists_ofDescriptors_iff.symm⟩
  · rw [Slot.step_install_of_empty (hinstalled.trans hfirst) hr]
  · have hregistry : (SlotStep.install ds).sealed? = some r := by
      rw [SlotStep.sealed?, hr]
      rfl
    have hstays : firstRegistry (before ++ .install ds :: rest) = some r := by
      rw [firstRegistry_append, show firstRegistry before = none from hfirst, Option.none_or,
        firstRegistry_cons, hregistry]
      rfl
    constructor
    · rw [Slot.step_global_after_empty, hstays]
    · intro label
      rw [Slot.step_lookup_after_empty, hstays]
      rfl
  · obtain ⟨r, hr⟩ := Option.isSome_iff_exists.1 hfirst
    cases hds : Registry.ofDescriptors ds with
    | error e => exact ⟨e, Slot.step_install_of_error hds⟩
    | ok r' => exact ⟨_, Slot.step_install_of_filled (hinstalled.trans hr) hds⟩
  · rw [← Registry.exists_ofDescriptors_iff] at hds
    cases hr : Registry.ofDescriptors ds with
    | error e => exact ⟨e, Slot.step_install_of_error hr⟩
    | ok r => exact absurd ⟨r, hr⟩ hds

/-- a batch with a repeated label leaves the slot free for the next one, and a third comes too late -/
theorem slot_written_once_refused :
    let repeated : List Descriptor := [{ label := "note" }, { label := "note" }]
    let plan : List Descriptor := [{ label := "plan", fields := [{ name := "step" }] }]
    let before : List SlotStep := [.global, .install repeated, .lookup "plan"]
    let after : List SlotStep := [.install [{ label := "late" }], .lookup "late"]
    (∃ fault, (Slot.empty.step (.install repeated)).2 = .installed (.error (.schema fault))) ∧
      ((Slot.empty.after before).step .global).2 = .global none ∧
      (∃ r, ((Slot.empty.after before).step (.install plan)).2 = .installed (.ok (some r)) ∧
        ((Slot.empty.after (before ++ .install plan :: after)).step (.lookup "plan")).2 =
          .found (r.lookup "plan") ∧ r.lookup "plan" = plan.head?) ∧
      ∃ fault, ((Slot.empty.after (before ++ [.install plan])).step (.install plan)).2 =
        .installed (.error (.schema fault)) := by
  intro repeated plan before after
  obtain ⟨-, -, -, hmalformed, -⟩ := slot_written_once []
  obtain ⟨⟨hglobal, -⟩, hfills, -, -, hregisters⟩ := slot_written_once before
  obtain ⟨-, -, hfilled, -, -⟩ := slot_written_once (before ++ [.install plan])
  obtain ⟨r, hr⟩ := (hregisters plan).1 (by decide +kernel)
  obtain ⟨hanswer, hstays⟩ := hfills plan r rfl hr
  refine ⟨?_, congrArg Prod.snd hglobal, ⟨r, hanswer, ?_, ?_⟩, ?_⟩
  · obtain ⟨fault, h⟩ := hmalformed repeated (by decide +kernel)
    exact ⟨fault, congrArg Prod.snd h⟩
  · exact congrArg Prod.snd ((hstays after).2 "plan")
  · rw [Registry.lookup_ofDescriptors hr]
    decide +kernel
  · obtain ⟨fault, h⟩ := hfilled plan (by decide +kernel)
    exact ⟨fault, congrArg Prod.snd h⟩

end PromptDispatch

import Mathlib.Data.Set.Card
import PromptDispatch.Proofs.Schema.Validation

/-!
# Runs of a registry's builder

A builder is asked to register descriptors, one at a time or in batches, in any order and with any
outcome.  What is left of such a run is a map from labels to descriptors, and it is told by the list
of the descriptors that were tried:

* `Keeps`               the builder has the first well-formed descriptor of each label tried;
* `Keeps.register`, `Keeps.registerAll`, `Keeps.run`   one try, a batch and a run preserve it;
* `FailsAfter.registerAll`, `exists_failsAfter`   where a batch stops;
* `registry_of_calls`   what a registry has after any run.
-/

namespace PromptDispatch

/-! ## well-formed descriptors -/

/-- A descriptor that can be used: its label is not blank, and its fields have distinct names, none
of which is empty. -/
structure Descriptor.WellFormed (d : Descriptor) : Prop where
  label : Text.isBlankText d.label.toList = false
  named : ∀ n ∈ d.names, n ≠ ""
  distinct : d.names.Nodup

theorem Descriptor.check_eq_ok_iff_wellFormed {d : Descriptor} :
    d.check = .ok () ↔ d.WellFormed := by
  rw [check_eq_ok_iff]
  exact ⟨fun ⟨hl, hn, hd⟩ => ⟨hl, hn, hd⟩, fun h => ⟨h.label, h.named, h.distinct⟩⟩

instance (d : Descriptor) : Decidable d.WellFormed :=
  decidable_of_iff _ Descriptor.check_eq_ok_iff_wellFormed

/-! ## calls -/

inductive RegistryCall where
  | register (d : Descriptor)
  /-- registers up to the first failure -/
  | registerAll (ds : List Descriptor)

namespace RegistryBuilder

variable {b b' : RegistryBuilder} {d : Descriptor} {e : SchemaFault} {ds : List Descriptor}

/-- the builder after a call, and the answer -/
def call (b : RegistryBuilder) : RegistryCall → RegistryBuilder × Except SchemaFault Unit
  | .register d => b.enter d
  | .registerAll ds => b.registerAll ds

def run (b : RegistryBuilder) : List RegistryCall → RegistryBuilder
  | [] => b
  | c :: r => (b.call c).1.run r

/-- the descriptors of a batch that are tried: it goes on only after a success -/
def triedOf (b : RegistryBuilder) : List Descriptor → List Descriptor
  | [] => []
  | d :: r =>
    match b.register d with
    | .error _ => [d]
    | .ok b' => d :: b'.triedOf r

/-- the descriptors that calls try, in order -/
def tried (b : RegistryBuilder) : List RegistryCall → List Descriptor
  | [] => []
  | .register d :: r => d :: (b.call (.register d)).1.tried r
  | .registerAll ds :: r => b.triedOf ds ++ (b.registerAll ds).1.tried r

/-! ## one descriptor -/

theorem call_register_of_ok (h : b.register d = .ok b') :
    b.call (.register d) = (b', .ok ()) :=
  enter_of_register h

theorem call_register_of_error (h : b.register d = .error e) :
    b.call (.register d) = (b, .error e) :=
  enter_of_register_error h

theorem isOk_call_register (b : RegistryBuilder) (d : Descriptor) :
    (b.call (.register d)).2.isOk = (b.register d).isOk := by
  cases h : b.register d with
  | error e => rw [call_register_of_error h]; rfl
  | ok b' => rw [call_register_of_ok h]; rfl

/-- a descriptor that is refused changes nothing -/
theorem call_register_of_refused (h : (b.call (.register d)).2.isOk = false) :
    (b.call (.register d)).1 = b := by
  cases hr : b.register d with
  | error e => rw [call_register_of_error hr]
  | ok b' =>
    rw [isOk_call_register, hr] at h
    cases h

theorem get?_of_register (h : b.register d = .ok b') (l : String) :
    b'.schemas.get? l = if l = d.label then some d else b.schemas.get? l := by
  obtain ⟨-, -, rfl⟩ := register_eq_ok_iff.1 h
  exact Dict.get?_insert _ _ _ _

theorem get?_of_register_eq_none_iff (h : b.register d = .ok b') {l : String} :
    b'.schemas.get? l = none ↔ l ≠ d.label ∧ b.schemas.get? l = none := by
  rw [get?_of_register h]
  by_cases hl : l = d.label
  · simp [hl]
  · simp [hl]

theorem register_isOk_iff :
    (b.register d).isOk = true ↔ d.WellFormed ∧ b.schemas.get? d.label = none := by
  have htaken : b.schemas.contains d.label = false ↔ b.schemas.get? d.label = none := by
    rw [Dict.contains, Option.isSome_eq_false_iff, Option.isNone_iff_eq_none]
  rw [Except.isOk_iff]
  constructor
  · rintro ⟨b', hr⟩
    obtain ⟨hcheck, hfree, -⟩ := register_eq_ok_iff.1 hr
    exact ⟨Descriptor.check_eq_ok_iff_wellFormed.1 hcheck, htaken.1 hfree⟩
  · rintro ⟨hwell, hfree⟩
    exact ⟨_, register_eq_ok_iff.2
      ⟨Descriptor.check_eq_ok_iff_wellFormed.2 hwell, htaken.2 hfree, rfl⟩⟩

/-! ## what a run keeps -/

/-- of each label, the first well-formed descriptor among those tried -/
def Keeps (b : RegistryBuilder) (tried : List Descriptor) : Prop :=
  ∀ l, b.schemas.get? l = tried.find? fun d => d.label = l ∧ d.WellFormed

variable {ts : List Descriptor}

theorem keeps_empty : empty.Keeps [] := fun _ => rfl

/-- One try: a first descriptor is put in place, and a later or malformed one changes nothing. -/
theorem Keeps.register (h : b.Keeps ts) (d : Descriptor) :
    (b.call (.register d)).1.Keeps (ts ++ [d]) := by
  intro l
  rw [List.find?_append, ← h l]
  cases hr : b.register d with
  | ok b' =>
    obtain ⟨hwell, hfree⟩ := register_isOk_iff.1 (Except.isOk_iff.2 ⟨b', hr⟩)
    rw [call_register_of_ok hr, get?_of_register hr]
    by_cases hl : l = d.label
    · rw [hl, hfree, if_pos rfl]
      simp [hwell]
    · rw [if_neg hl]
      simp [Ne.symm hl]
  | error e =>
    rw [call_register_of_error hr]
    -- a well-formed descriptor is only refused where its label has one already
    have hrefused : ¬(d.WellFormed ∧ b.schemas.get? d.label = none) := fun hd => by
      have hok := register_isOk_iff.2 hd
      rw [hr] at hok
      cases hok
    by_cases hl : d.label = l ∧ d.WellFormed
    · obtain ⟨rfl, hwell⟩ := hl
      obtain ⟨first, hfirst⟩ := Option.ne_none_iff_exists'.1 fun hn => hrefused ⟨hwell, hn⟩
      rw [hfirst]
      rfl
    · simp [hl]

/-- A batch: its descriptors are tried one after the other. -/
theorem Keeps.registerAll (h : b.Keeps ts) (ds : List Descriptor) :
    (b.registerAll ds).1.Keeps (ts ++ b.triedOf ds) := by
  induction ds generalizing b ts with
  | nil => simpa [RegistryBuilder.registerAll, triedOf] using h
  | cons d r ih =>
    have hstep := h.register d
    rw [triedOf]
    cases hr : b.register d with
    | error e =>
      rw [call_register_of_error hr] at hstep
      rw [registerAll_cons_of_error hr]
      exact hstep
    | ok b' =>
      rw [call_register_of_ok hr] at hstep
      rw [registerAll_cons_of_ok hr]
      have hrest := ih hstep
      rw [List.append_assoc] at hrest
      exact hrest

theorem Keeps.run (h : b.Keeps ts) (calls : List RegistryCall) :
    (b.run calls).Keeps (ts ++ b.tried calls) := by
  induction calls generalizing b ts with
  | nil => simpa [RegistryBuilder.run, tried] using h
  | cons c r ih =>
    cases c with
    | register d =>
      have hrest := ih (h.register d)
      rw [List.append_assoc] at hrest
      exact hrest
    | registerAll ds =>
      have hrest := ih (h.registerAll ds)
      rw [List.append_assoc] at hrest
      exact hrest

theorem keeps_run (calls : List RegistryCall) : (empty.run calls).Keeps (empty.tried calls) :=
  keeps_empty.run calls

/-! ## where a batch stops -/

/-- the descriptors `before` can be registered one after the other, and `d` after them cannot -/
structure FailsAfter (b : RegistryBuilder) (before : List Descriptor) (d : Descriptor)
    (e : SchemaFault) : Prop where
  before_ok : (b.registerAll before).2 = .ok ()
  refused : (b.run (before.map .register)).register d = .error e

/-- A batch without a failure tries all of its descriptors, as single calls do. -/
theorem registerAll_of_ok (h : (b.registerAll ds).2 = .ok ()) :
    b.registerAll ds = (b.run (ds.map .register), .ok ()) ∧ b.triedOf ds = ds := by
  induction ds generalizing b with
  | nil => exact ⟨rfl, rfl⟩
  | cons d r ih =>
    rw [triedOf, List.map_cons, run]
    cases hr : b.register d with
    | error e =>
      rw [registerAll_cons_of_error hr] at h
      cases h
    | ok b' =>
      rw [registerAll_cons_of_ok hr] at h ⊢
      obtain ⟨hrun, htried⟩ := ih h
      rw [call_register_of_ok hr]
      exact ⟨hrun, congrArg (d :: ·) htried⟩

/-- A batch ends at its first failure: what comes before is registered, the failure is the answer,
and what comes after is not tried. -/
theorem FailsAfter.registerAll {before : List Descriptor} (h : b.FailsAfter before d e)
    (rest : List Descriptor) :
    b.registerAll (before ++ d :: rest) = (b.run (before.map .register), .error e) ∧
      b.triedOf (before ++ d :: rest) = before ++ [d] := by
  obtain ⟨hbefore, hd⟩ := h
  induction before generalizing b with
  | nil =>
    have hd : b.register d = .error e := hd
    rw [List.nil_append, registerAll_cons_of_error hd, triedOf, hd]
    exact ⟨rfl, rfl⟩
  | cons x r ih =>
    rw [List.cons_append, triedOf]
    cases hr : b.register x with
    | error e' =>
      rw [registerAll_cons_of_error hr] at hbefore
      cases hbefore
    | ok b' =>
      rw [registerAll_cons_of_ok hr] at hbefore ⊢
      rw [List.map_cons, RegistryBuilder.run, call_register_of_ok hr] at hd ⊢
      obtain ⟨hrun, htried⟩ := ih hbefore hd
      exact ⟨hrun, congrArg (x :: ·) htried⟩

/-- every batch that fails has a first failure -/
theorem exists_failsAfter (h : (b.registerAll ds).2 = .error e) :
    ∃ before d rest, ds = before ++ d :: rest ∧ b.FailsAfter before d e := by
  induction ds generalizing b with
  | nil => cases h
  | cons d r ih =>
    cases hr : b.register d with
    | error e' =>
      rw [registerAll_cons_of_error hr] at h
      cases h
      exact ⟨[], d, r, rfl, rfl, hr⟩
    | ok b' =>
      rw [registerAll_cons_of_ok hr] at h
      obtain ⟨before, x, rest, rfl, hbefore, hx⟩ := ih h
      refine ⟨d :: before, x, rest, rfl, ?_, ?_⟩
      · rw [registerAll_cons_of_ok hr]
        exact hbefore
      · rw [List.map_cons, run, call_register_of_ok hr]
        exact hx

end RegistryBuilder

/-! ## the registry of a run -/

namespace Registry

variable {r : Registry}

theorem mem_labels_iff {l : String} : l ∈ r.labels ↔ (r.lookup l).isSome = true :=
  Entries.lookup_isSome_iff.symm

theorem nodup_labels (r : Registry) : r.labels.Nodup := Entries.Sorted.nodup r.schemas.sorted

theorem size_eq_ncard (r : Registry) : r.size = {l | (r.lookup l).isSome = true}.ncard := by
  have hset : {l | (r.lookup l).isSome = true} = (r.labels.toFinset : Set String) := by
    ext l
    simp [mem_labels_iff]
  have hlength : r.size = r.labels.length := (List.length_map _).symm
  rw [hset, Set.ncard_coe_finset, List.toFinset_card_of_nodup r.nodup_labels, hlength]

theorem lookup_eq_some_iff {l : String} {d : Descriptor} :
    r.lookup l = some d ↔ (l, d) ∈ r.schemas.entries :=
  Entries.lookup_eq_some_iff_mem r.nodup_labels

theorem mem_descriptors_iff {d : Descriptor} : d ∈ r.descriptors ↔ ∃ l, r.lookup l = some d := by
  rw [descriptors, Dict.values, List.mem_map]
  constructor
  · rintro ⟨e, he, rfl⟩
    exact ⟨e.1, lookup_eq_some_iff.2 he⟩
  · rintro ⟨l, hl⟩
    exact ⟨(l, d), lookup_eq_some_iff.1 hl, rfl⟩

theorem labels_eq_map (h : ∀ l d, r.lookup l = some d → d.label = l) :
    r.labels = r.descriptors.map (·.label) := by
  rw [labels, descriptors, Dict.keys, Dict.values, List.map_map]
  exact List.map_congr_left fun e he => (h e.1 e.2 (lookup_eq_some_iff.2 he)).symm

end Registry

theorem RegistryBuilder.Keeps.lookup_build {b : RegistryBuilder} {ts : List Descriptor}
    (h : b.Keeps ts) (l : String) :
    b.build.lookup l = ts.find? fun d => d.label = l ∧ d.WellFormed :=
  h l

theorem RegistryBuilder.Keeps.of_lookup {b : RegistryBuilder} {ts : List Descriptor}
    (h : b.Keeps ts) {l : String} {d : Descriptor} (hl : b.build.lookup l = some d) :
    d.label = l ∧ d ∈ ts := by
  rw [h.lookup_build] at hl
  have hfound := List.find?_some hl
  rw [decide_eq_true_eq] at hfound
  exact ⟨hfound.1, List.mem_of_find?_eq_some hl⟩

/-- **A registry has the first well-formed descriptor of each label**, in the order in which they
were tried and whatever the calls were.  It has it as it was given and under its own label; the
labels ascend.  At every point of a run a single descriptor is refused exactly if it is malformed or
its label is taken, and then no label is found otherwise than before; a batch registers what comes
before its first failure, answers with that failure and tries nothing after it. -/
theorem registry_of_calls (calls : List RegistryCall) :
    let b := RegistryBuilder.empty.run calls
    let tried := RegistryBuilder.empty.tried calls
    let r := b.build
    (∀ l, r.lookup l = tried.find? fun d => d.label = l ∧ d.WellFormed) ∧
    (r.labels = r.descriptors.map (·.label) ∧ ∀ d ∈ r.descriptors, d ∈ tried) ∧
    (r.labels.Pairwise (· < ·) ∧ r.size = {l | (r.lookup l).isSome = true}.ncard) ∧
    (∀ d, (b.call (.register d)).2.isOk = true ↔ d.WellFormed ∧ r.lookup d.label = none) ∧
    (∀ d l, (b.call (.register d)).2.isOk = false →
      (b.call (.register d)).1.build.lookup l = r.lookup l) ∧
    (∀ ds, (b.registerAll ds).2 = .ok () →
      b.registerAll ds = (b.run (ds.map .register), .ok ()) ∧ b.triedOf ds = ds) ∧
    (∀ before d e rest, b.FailsAfter before d e →
      b.registerAll (before ++ d :: rest) = (b.run (before.map .register), .error e) ∧
        b.triedOf (before ++ d :: rest) = before ++ [d]) ∧
    (∀ ds e, (b.registerAll ds).2 = .error e →
      ∃ before d rest, ds = before ++ d :: rest ∧ b.FailsAfter before d e) := by
  intro b tried r
  have hkeeps : b.Keeps tried := RegistryBuilder.keeps_run calls
  refine ⟨hkeeps.lookup_build, ⟨?_, ?_⟩, ⟨r.schemas.keys_sorted, r.size_eq_ncard⟩, ?_, ?_, ?_, ?_, ?_⟩
  · exact Registry.labels_eq_map fun l d hl => (hkeeps.of_lookup hl).1
  · intro d hd
    obtain ⟨l, hl⟩ := Registry.mem_descriptors_iff.1 hd
    exact (hkeeps.of_lookup hl).2
  · intro d
    rw [RegistryBuilder.isOk_call_register]
    exact RegistryBuilder.register_isOk_iff
  · intro d l h
    rw [RegistryBuilder.call_register_of_refused h]
  · exact fun ds h => RegistryBuilder.registerAll_of_ok h
  · exact fun before d e rest h => h.registerAll rest
  · exact fun ds e h => RegistryBuilder.exists_failsAfter h

/-- a malformed descriptor and a batch that stops at a repeated label; the label of the descriptor
that was not tried is free -/
def mixedCalls : List RegistryCall :=
  [.register { label := " " },
    .registerAll [{ label := "note", fields := [{ name := "text" }] }, { label := "note" },
      { label := "plan" }],
    .register { label := "plan", fields := [{ name := "step" }, { name := "step" }] }]

theorem registry_of_calls_mixed :
    (RegistryBuilder.empty.run mixedCalls).build.lookup "note" =
        some { label := "note", fields := [{ name := "text" }] } ∧
      (RegistryBuilder.empty.run mixedCalls).build.lookup "plan" = none ∧
      ((RegistryBuilder.empty.run mixedCalls).registerAll
          [{ label := "plan" }, { label := "note" }, { label := "rest" }]).2 =
        .error (.alreadyRegistered "note") := by
  obtain ⟨hlookup, -, -, -, -, -, hbatch, -⟩ := registry_of_calls mixedCalls
  have hstop : (RegistryBuilder.empty.run mixedCalls).FailsAfter [{ label := "plan" }]
      { label := "note" } (.alreadyRegistered "note") :=
    ⟨by decide +kernel, rfl⟩
  refine ⟨?_, ?_, ?_⟩
  · rw [hlookup]
    decide +kernel
  · rw [hlookup]
    decide +kernel
  · exact congrArg Prod.snd (hbatch _ _ _ [{ label := "rest" }] hstop).1

end PromptDispatch

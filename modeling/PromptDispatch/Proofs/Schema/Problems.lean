import Mathlib.Data.List.Nodup
import PromptDispatch.Proofs.Schema.Acceptance
import PromptDispatch.Proofs.Text.Search

/-!
# The problems of a value

Validation walks the declared fields and then the members, and has one entry for each of them that
something is wrong with.  `OneEach` says what that is for any list, and `Descriptor.AllWrong` for
the fields and the names of an object.

* `Descriptor.allWrong_iff`     the problems are all that is wrong, and nothing else is;
* `FieldType.word_ne_kind`      a value that a type does not admit is of a kind with another name;
* `Descriptor.nodup_messages`   no two problems have the same words, whatever the names are;
* `validate_exact`              what a registered descriptor answers to a value.
-/

namespace PromptDispatch

/-! ## one entry for each -/

/-- one entry for each that something is wrong with, in order -/
inductive OneEach {α : Type} (Wrong : α → Problem → Prop) : List α → List Problem → Prop
  | nil : OneEach Wrong [] []
  | fine {a : α} {l : List α} {ps : List Problem} (ha : ∀ p, ¬Wrong a p) (h : OneEach Wrong l ps) :
    OneEach Wrong (a :: l) ps
  | wrong {a : α} {p : Problem} {l : List α} {ps : List Problem} (ha : Wrong a p)
    (h : OneEach Wrong l ps) : OneEach Wrong (a :: l) (p :: ps)

namespace OneEach

variable {α : Type} {Wrong : α → Problem → Prop} {l : List α} {ps : List Problem}

theorem exists_of_mem (h : OneEach Wrong l ps) {p : Problem} (hp : p ∈ ps) :
    ∃ a ∈ l, Wrong a p := by
  induction h with
  | nil => cases hp
  | fine _ _ ih =>
    obtain ⟨a, ha, hw⟩ := ih hp
    exact ⟨a, List.mem_cons_of_mem _ ha, hw⟩
  | wrong hw _ ih =>
    rcases List.mem_cons.1 hp with rfl | hp
    · exact ⟨_, List.mem_cons_self, hw⟩
    · obtain ⟨a, ha, hw⟩ := ih hp
      exact ⟨a, List.mem_cons_of_mem _ ha, hw⟩

/-- a check that finds what is wrong with one finds all that is wrong -/
theorem iff_filterMap {check : α → Option Problem}
    (hcheck : ∀ a p, check a = some p ↔ Wrong a p) :
    OneEach Wrong l ps ↔ ps = l.filterMap check := by
  constructor
  · intro h
    induction h with
    | nil => rfl
    | @fine a l ps ha _ ih =>
      have hnone : check a = none :=
        Option.eq_none_iff_forall_ne_some.2 fun p hp => ha p ((hcheck a p).1 hp)
      rw [List.filterMap_cons_none hnone, ih]
    | wrong ha _ ih => rw [List.filterMap_cons_some ((hcheck _ _).2 ha), ih]
  · rintro rfl
    induction l with
    | nil => exact .nil
    | cons a l ih =>
      cases ha : check a with
      | none =>
        rw [List.filterMap_cons_none ha]
        refine .fine (fun p hp => ?_) ih
        rw [(hcheck a p).2 hp] at ha
        cases ha
      | some p =>
        rw [List.filterMap_cons_some ha]
        exact .wrong ((hcheck a p).1 ha) ih

/-- where the words tell what they are about, no words come twice -/
theorem nodup_map {β : Type} {words : Problem → β} (h : OneEach Wrong l ps) (hl : l.Nodup)
    (hwords : ∀ a ∈ l, ∀ b ∈ l, ∀ p q, Wrong a p → Wrong b q → words p = words q → a = b) :
    (ps.map words).Nodup := by
  induction h with
  | nil => exact List.nodup_nil
  | fine _ _ ih =>
    exact ih (List.nodup_cons.1 hl).2 fun a ha b hb =>
      hwords a (List.mem_cons_of_mem _ ha) b (List.mem_cons_of_mem _ hb)
  | wrong hw h ih =>
    obtain ⟨hnew, hl⟩ := List.nodup_cons.1 hl
    refine List.nodup_cons.2 ⟨fun hmem => ?_, ih hl fun a ha b hb =>
      hwords a (List.mem_cons_of_mem _ ha) b (List.mem_cons_of_mem _ hb)⟩
    obtain ⟨q, hq, heq⟩ := List.mem_map.1 hmem
    obtain ⟨b, hb, hwb⟩ := h.exists_of_mem hq
    have hab := hwords _ List.mem_cons_self b (List.mem_cons_of_mem _ hb) _ q hw hwb heq.symm
    exact hnew (hab ▸ hb)

end OneEach

/-! ## what can be wrong -/

inductive FieldSpec.Fails (members : List (String × Json)) (f : FieldSpec) : Problem → Prop
  | missing (hrequired : f.required = true) (habsent : f.name ∉ members.map Prod.fst) :
    Fails members f (.missing f.name)
  | mistyped (v : Json) (hmem : (f.name, v) ∈ members) (htype : f.type.admits v = false) :
    Fails members f (.mistyped f.name f.type v.kind)

namespace Descriptor

inductive Strays (d : Descriptor) (name : String) : Problem → Prop
  | unexpected (hname : name ∉ d.names) : Strays d name (.unexpected name)

/-- all that is wrong with an object, the declared fields first and then the names of its members -/
def AllWrong (d : Descriptor) (members : List (String × Json)) (ps : List Problem) : Prop :=
  ∃ declared undeclared, OneEach (FieldSpec.Fails members) d.fields declared ∧
    OneEach d.Strays (members.map Prod.fst) undeclared ∧ ps = declared ++ undeclared

variable {d : Descriptor} {members : List (String × Json)}

theorem fieldProblem_eq_some_iff (hkeys : (members.map Prod.fst).Nodup) (f : FieldSpec)
    (p : Problem) : fieldProblem members f = some p ↔ f.Fails members p := by
  rw [fieldProblem]
  constructor
  · intro h
    split at h
    · rename_i hlookup
      split at h
      · rename_i hrequired
        cases h
        refine .missing hrequired fun hmem => ?_
        rw [← Entries.lookup_isSome_iff, hlookup] at hmem
        cases hmem
      · cases h
    · rename_i v hlookup
      split at h
      · cases h
      · rename_i htype
        cases h
        exact .mistyped v (Entries.mem_of_lookup hlookup) (Bool.eq_false_iff.2 htype)
  · rintro (⟨hrequired, habsent⟩ | ⟨v, hmem, htype⟩)
    · have hlookup : members.lookup f.name = none := by
        rw [← Entries.lookup_isSome_iff, Option.not_isSome_iff_eq_none] at habsent
        exact habsent
      simp [hlookup, hrequired]
    · have hlookup := (Entries.lookup_eq_some_iff_mem hkeys).2 hmem
      simp [hlookup, htype]

def nameProblem (d : Descriptor) (name : String) : Option Problem :=
  if name ∈ d.names then none else some (.unexpected name)

theorem nameProblem_eq_some_iff (name : String) (p : Problem) :
    d.nameProblem name = some p ↔ d.Strays name p := by
  rw [nameProblem]
  constructor
  · intro h
    split at h
    · cases h
    · rename_i hname
      cases h
      exact .unexpected hname
  · rintro ⟨hname⟩
    exact if_neg hname

theorem memberProblem_eq (m : String × Json) : d.memberProblem m = d.nameProblem m.1 := by
  rw [memberProblem, nameProblem]
  by_cases h : m.1 ∈ d.names
  · rw [if_pos h, if_neg fun hnone => get?_isNone_iff.1 hnone h]
  · rw [if_neg h, if_pos (get?_isNone_iff.2 h)]

/-- The problems of an object are all that is wrong with it, and no other list is that. -/
theorem allWrong_iff (hkeys : (members.map Prod.fst).Nodup) {ps : List Problem} :
    d.AllWrong members ps ↔ ps = d.problems (.obj members) := by
  have hstrays : members.filterMap d.memberProblem =
      (members.map Prod.fst).filterMap d.nameProblem := by
    rw [List.filterMap_map]
    exact List.filterMap_congr fun m _ => memberProblem_eq m
  rw [problems, hstrays]
  constructor
  · rintro ⟨declared, undeclared, hd, hu, rfl⟩
    rw [(OneEach.iff_filterMap (fieldProblem_eq_some_iff hkeys)).1 hd,
      (OneEach.iff_filterMap nameProblem_eq_some_iff).1 hu]
  · rintro rfl
    exact ⟨_, _, (OneEach.iff_filterMap (fieldProblem_eq_some_iff hkeys)).2 rfl,
      (OneEach.iff_filterMap nameProblem_eq_some_iff).2 rfl, rfl⟩

end Descriptor

/-! ## words -/

theorem Json.hasType_kind (v : Json) : v.hasType v.kind = true := by
  cases v with
  | num n => cases n <;> rfl
  | _ => rfl

theorem Json.quote_not_mem_kind (v : Json) : '\'' ∉ v.kind.toList := by
  have hkind : v.kind ∈ ["null", "boolean", "number", "integer", "string", "array", "object"] := by
    cases v with
    | num n => cases n <;> simp [kind]
    | _ => simp [kind]
  revert hkind
  generalize v.kind = word
  revert word
  decide

namespace FieldType

theorem quote_not_mem_word (t : FieldType) : '\'' ∉ (t.jsonType?.getD "any").toList := by
  cases t <;> decide

theorem word_ne_kind {t : FieldType} {v : Json} (h : t.admits v = false) :
    t.jsonType?.getD "any" ≠ v.kind := by
  have hany : t ≠ any := by
    rintro rfl
    cases h
  rw [jsonType?_of_ne_any hany, Option.getD_some]
  intro hkind
  have htype : t.admits v = true := by
    rw [← hasType_name hany, hkind]
    exact v.hasType_kind
  exact Bool.false_ne_true (h.symm.trans htype)

end FieldType

namespace Problem

theorem toList_message_missing (name : String) :
    (missing name).message.toList =
      "missing required field '".toList ++ (name.toList ++ ['\'']) := by
  have h : (missing name).message = "missing required field '" ++ name ++ "'" := rfl
  rw [h, String.toList_append, String.toList_append, List.append_assoc]
  rfl

theorem toList_message_mistyped (name : String) (t : FieldType) (kind : String) :
    (mistyped name t kind).message.toList =
      "field '".toList ++ (name.toList ++ '\'' :: (" should be ".toList ++
        ((t.jsonType?.getD "any").toList ++ (", found ".toList ++ kind.toList)))) := by
  have h : (mistyped name t kind).message =
      "field '" ++ name ++ "' should be " ++ t.jsonType?.getD "any" ++ (", found " ++ kind) := rfl
  rw [h]
  simp only [String.toList_append, List.append_assoc]
  rfl

theorem toList_message_unexpected (name : String) :
    (unexpected name).message.toList = "unexpected field '".toList ++ (name.toList ++ ['\'']) := by
  have h : (unexpected name).message = "unexpected field '" ++ name ++ "'" := rfl
  rw [h, String.toList_append, String.toList_append, List.append_assoc]
  rfl

theorem eq_of_message_unexpected {a b : String}
    (h : (unexpected a).message = (unexpected b).message) : a = b := by
  have htext := congrArg String.toList h
  rw [toList_message_unexpected, toList_message_unexpected] at htext
  exact String.toList_injective (List.append_cancel_right (List.append_cancel_left htext))

end Problem

namespace FieldSpec.Fails

variable {members : List (String × Json)} {f g : FieldSpec} {p q : Problem}

/-- the words begin in one of two ways and have their last quote after the field's name -/
theorem exists_message (h : f.Fails members p) :
    ∃ before rest, (before = "missing required field '".toList ∨ before = "field '".toList) ∧
      '\'' ∉ rest ∧ p.message.toList = before ++ (f.name.toList ++ '\'' :: rest) := by
  cases h with
  | missing => exact ⟨_, [], .inl rfl, List.not_mem_nil, Problem.toList_message_missing f.name⟩
  | mistyped v =>
    have hrest : '\'' ∉ " should be ".toList ++ ((f.type.jsonType?.getD "any").toList ++
        (", found ".toList ++ v.kind.toList)) := by
      simp only [List.mem_append, not_or]
      exact ⟨by decide, f.type.quote_not_mem_word, by decide, v.quote_not_mem_kind⟩
    exact ⟨_, _, .inr rfl, hrest, Problem.toList_message_mistyped f.name f.type v.kind⟩

theorem name_eq (hp : f.Fails members p) (hq : g.Fails members q)
    (h : p.message = q.message) : f.name = g.name := by
  obtain ⟨before, rest, hbefore, hrest, hmessage⟩ := hp.exists_message
  obtain ⟨before', rest', hbefore', hrest', hmessage'⟩ := hq.exists_message
  rw [h, hmessage'] at hmessage
  have hsame : before' = before := by
    rcases hbefore with rfl | rfl <;> rcases hbefore' with rfl | rfl
    · rfl
    · exact absurd hmessage (Text.append_ne_append (c := 'f') (d := 'm') rfl rfl (by decide) _ _)
    · exact absurd hmessage (Text.append_ne_append (c := 'm') (d := 'f') rfl rfl (by decide) _ _)
    · rfl
  rw [hsame] at hmessage
  have hname := Text.eq_of_append_last hrest' hrest (List.append_cancel_left hmessage)
  exact (String.toList_injective hname).symm

theorem message_ne_unexpected (hp : f.Fails members p) (name : String) :
    p.message ≠ (Problem.unexpected name).message := by
  intro h
  obtain ⟨before, rest, hbefore, -, hmessage⟩ := hp.exists_message
  rw [h, Problem.toList_message_unexpected] at hmessage
  rcases hbefore with rfl | rfl
  · exact Text.append_ne_append (c := 'u') (d := 'm') rfl rfl (by decide) _ _ hmessage
  · exact Text.append_ne_append (c := 'u') (d := 'f') rfl rfl (by decide) _ _ hmessage

end FieldSpec.Fails

namespace Descriptor

variable {d : Descriptor} {members : List (String × Json)} {ps : List Problem}

/-- no two things that are wrong have the same words -/
theorem nodup_messages (hnames : d.names.Nodup) (hkeys : (members.map Prod.fst).Nodup)
    (h : d.AllWrong members ps) : (ps.map Problem.message).Nodup := by
  obtain ⟨declared, undeclared, hd, hu, rfl⟩ := h
  have hdeclared : (declared.map Problem.message).Nodup :=
    hd.nodup_map hnames.of_map fun f hf g hg _ _ hp hq heq =>
      List.inj_on_of_nodup_map hnames hf hg (hp.name_eq hq heq)
  have hundeclared : (undeclared.map Problem.message).Nodup := by
    refine hu.nodup_map hkeys fun a _ b _ p q hp hq heq => ?_
    cases hp
    cases hq
    exact Problem.eq_of_message_unexpected heq
  rw [List.map_append]
  refine hdeclared.append hundeclared fun text htext htext' => ?_
  obtain ⟨p, hp, rfl⟩ := List.mem_map.1 htext
  obtain ⟨q, hq, heq⟩ := List.mem_map.1 htext'
  obtain ⟨f, -, hfails⟩ := hd.exists_of_mem hp
  obtain ⟨name, -, ⟨-⟩⟩ := hu.exists_of_mem hq
  exact hfails.message_ne_unexpected name heq.symm

theorem words_ne (h : d.AllWrong members ps) {field kind : String} {type : FieldType}
    (hmem : .mistyped field type kind ∈ ps) : type.jsonType?.getD "any" ≠ kind := by
  obtain ⟨declared, undeclared, hd, hu, rfl⟩ := h
  rcases List.mem_append.1 hmem with hmem | hmem
  · obtain ⟨f, -, hfails⟩ := hd.exists_of_mem hmem
    cases hfails with
    | mistyped v _ htype => exact FieldType.word_ne_kind htype
  · obtain ⟨name, -, hstrays⟩ := hu.exists_of_mem hmem
    cases hstrays

theorem validate_of_not_object {v : Json} (h : v.isObject = false) :
    d.validate v = .error (.violation d.label [.notObject v.kind]) := by
  cases v with
  | obj members => cases h
  | _ => rfl

theorem validate_eq_error {v : Json} (h : d.problems v ≠ []) :
    d.validate v = .error (.violation d.label (d.problems v)) := by
  rw [validate]
  split
  · rename_i hnil
    exact absurd hnil h
  · rfl

end Descriptor

/-- **What a registered descriptor answers to a value.**  What is no object has its kind as its one
problem.  Of an object the problems are one entry for each declared field that is required and
absent or of another type, in the order of declaration, and then one for each member that is not
declared, in the order of their names; it is valid if there are none.  No two entries have the same
words, and the type and the kind that a mistyped field is told with are different words. -/
theorem validate_exact {b b' : RegistryBuilder} {d : Descriptor} (h : b.register d = .ok b')
    {v : Json} (hv : v.Canonical) :
    (v.isObject = false → d.validate v = .error (.violation d.label [.notObject v.kind])) ∧
      ∀ members, v = .obj members → (members.map Prod.fst).Pairwise (· < ·) ∧
        ∃ ps, (∀ qs, d.AllWrong members qs ↔ qs = ps) ∧ (d.validate v = .ok () ↔ ps = []) ∧
          (ps ≠ [] → d.validate v = .error (.violation d.label ps)) ∧
          (ps.map Problem.message).Nodup ∧
          ∀ field type kind, .mistyped field type kind ∈ ps → type.jsonType?.getD "any" ≠ kind := by
  refine ⟨Descriptor.validate_of_not_object, ?_⟩
  rintro members rfl
  obtain ⟨hcheck, -, -⟩ := RegistryBuilder.register_eq_ok_iff.1 h
  obtain ⟨-, -, hnames⟩ := Descriptor.check_eq_ok_iff.1 hcheck
  have hsorted : Entries.Sorted members := hv.1
  have hall := (Descriptor.allWrong_iff (d := d) hsorted.nodup).2 rfl
  exact ⟨hsorted, d.problems (.obj members), fun qs => Descriptor.allWrong_iff hsorted.nodup,
    d.validate_eq_ok_iff _, Descriptor.validate_eq_error,
    Descriptor.nodup_messages hnames hsorted.nodup hall,
    fun field type kind hmem => Descriptor.words_ne hall hmem⟩

/-- a note with a value of another type, null where a text is optional, without a required field,
and with a name that has a quote in it -/
theorem validate_exact_note :
    let v : Json := .obj [("id", .str "1"), ("it's", .null), ("text", .null)]
    let ps : List Problem := [.mistyped "id" .integer "string", .mistyped "text" .string "null",
      .missing "extra", .unexpected "it's"]
    RegistryBuilder.empty.register noteDescriptor =
        .ok { schemas := Dict.empty.insert "note" noteDescriptor } ∧
      v.Canonical ∧ noteDescriptor.validate v = .error (.violation "note" ps) ∧
      (ps.map Problem.message).Nodup := by
  intro v ps
  have h : RegistryBuilder.empty.register noteDescriptor =
      .ok { schemas := Dict.empty.insert "note" noteDescriptor } :=
    RegistryBuilder.register_eq_ok_iff.2
      ⟨Descriptor.check_eq_ok_iff.2 (by decide +kernel), by decide +kernel, rfl⟩
  have hv : v.Canonical := ⟨by decide, trivial, trivial, trivial, trivial⟩
  obtain ⟨-, qs, hqs, -, herror, hnodup, -⟩ := (validate_exact h hv).2 _ rfl
  have hps : noteDescriptor.AllWrong [("id", .str "1"), ("it's", .null), ("text", .null)] ps := by
    refine ⟨ps.take 3, ps.drop 3, ?_, ?_, rfl⟩
    · exact .wrong (.mistyped (.str "1") (by decide) rfl)
        (.wrong (.mistyped .null (by decide) rfl) (.wrong (.missing rfl (by decide)) .nil))
    · refine .fine ?_ (.wrong (.unexpected (by decide)) (.fine ?_ .nil))
      · rintro p ⟨hname⟩
        exact hname (by decide)
      · rintro p ⟨hname⟩
        exact hname (by decide)
  obtain rfl := (hqs ps).1 hps
  exact ⟨h, hv, herror (List.cons_ne_nil _ _), hnodup⟩

end PromptDispatch

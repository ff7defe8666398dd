import PromptDispatch.Proofs.Json.Tokens
import PromptDispatch.Schema.FieldSpec

/-!
# Texts of declared fields

A field is written as one object without white space.  The text is read to the tree of its members
(`read?_tree_text`), and that tree to the field.  Which other trees are read to a field is told
member by member: what a draft keeps of one name depends on no member but that one
(`Draft.addAll?_eq_some_iff`), which stands there once or not at all (`holdAll?_none_eq_some_iff`).

* `Json.Compact`          texts of values without white space;
* `FieldSpec.Declares`    the trees that declare a field;
* `FieldSpec.ofTree?_eq_some_iff`   they are what is read to it;
* `FieldSpec.text_read_back`        what is written is read back.
-/

namespace PromptDispatch

namespace Json

open State

/-! ## texts without white space -/

/-- where a value comes next, `s` is read to `t`, which ends with it -/
def Compact (s : List Char) (t : Tree) : Prop :=
  ∀ k, (⟨.value, k⟩ : State).run s = some (place t k)

/-- the members of an object after its first one, each after a comma -/
inductive CompactMembers : List Char → List (Option (List Char) × Tree) → Prop
  | nil : CompactMembers [] []
  | cons (name : List Char) {s r t ms} (h : Compact s t) (hr : CompactMembers r ms) :
    CompactMembers (',' :: (quote name ++ ':' :: (s ++ r))) ((some name, t) :: ms)

theorem compact_bool (b : Bool) :
    Compact (if b then "true".toList else "false".toList) (.bool b) := by
  cases b with
  | true => exact run_word (List.mem_cons_of_mem _ List.mem_cons_self)
  | false => exact run_word (List.mem_cons_of_mem _ (List.mem_cons_of_mem _ List.mem_cons_self))

section
variable {s r : List Char} {t : Tree} {ms before : List (Option (List Char) × Tree)}
  {k : List Frame}

theorem run_compactMember (h : Compact s t) {st : State}
    (hname : st.step '"' = some ⟨.name before {}, k⟩) (name rest : List Char) :
    st.run (quote name ++ ':' :: (s ++ rest)) =
      (⟨.afterMember ((some name, t) :: before), k⟩ : State).run rest := by
  rw [run_append, run_quote_name hname, Option.bind_some, run_cons,
    (Reads.member before (some name) k).step_eq, Option.bind_some, run_append, h, Option.bind_some]
  rfl

theorem CompactMembers.run (h : CompactMembers s ms) (before : List (Option (List Char) × Tree))
    (k : List Frame) (rest : List Char) :
    (⟨.afterMember before, k⟩ : State).run (s ++ rest) =
      (⟨.afterMember (ms.reverse ++ before), k⟩ : State).run rest := by
  induction h generalizing before with
  | nil => rfl
  | @cons name s r t ms h hr ih =>
    rw [List.cons_append, List.append_assoc, List.cons_append, List.append_assoc, run_cons,
      (Reads.nextMember before k).step_eq, Option.bind_some, run_compactMember h rfl, ih]
    simp

theorem compact_object (name : List Char) (h : Compact s t) (hr : CompactMembers r ms) :
    Compact ('{' :: (quote name ++ ':' :: (s ++ (r ++ ['}']))))
      (.object ((some name, t) :: ms)) := by
  intro k
  have hclose : (⟨.afterMember (ms.reverse ++ [(some name, t)]), k⟩ : State).run ['}'] =
      some (place (.object (ms.reverse ++ [(some name, t)]).reverse) k) := rfl
  rw [run_cons, (Reads.openObject k).step_eq, Option.bind_some, run_compactMember h rfl, hr.run,
    hclose]
  simp

theorem read?_of_compact (h : Compact s t) : Tree.read? s = some t := by
  show ((⟨.value, []⟩ : State).run s).bind State.value? = some t
  rw [h []]
  rfl

end

end Json

namespace FieldSpec

open Json (Tree Compact CompactMembers quote)

def tree (f : FieldSpec) : Tree :=
  .object ((some "name".toList, .string (some f.name.toList)) ::
    (some "type".toList, .string (some f.type.name.toList)) ::
    (some "required".toList, .bool f.required) ::
    (f.description.map fun d => (some "description".toList, .string (some d.toList))).toList)

def descriptionText (f : FieldSpec) : List Char :=
  match f.description with
  | none => []
  | some d => ',' :: (quote "description".toList ++ ':' :: quote d.toList)

theorem toList_text (f : FieldSpec) :
    f.text.toList = '{' :: (quote "name".toList ++ ':' :: (quote f.name.toList ++
      (',' :: (quote "type".toList ++ ':' :: (quote f.type.name.toList ++
        (',' :: (quote "required".toList ++ ':' ::
          ((if f.required then "true".toList else "false".toList) ++ f.descriptionText))))) ++
      ['}']))) := by
  have hname : "\x7b\"name\":".toList = '{' :: (quote "name".toList ++ [':']) := by decide
  have htype : ",\"type\":".toList = ',' :: (quote "type".toList ++ [':']) := by decide
  have hrequired : ",\"required\":".toList = ',' :: (quote "required".toList ++ [':']) := by decide
  have hdescription : ",\"description\":".toList =
      ',' :: (quote "description".toList ++ [':']) := by
    decide
  obtain ⟨name, type, required, description⟩ := f
  cases description <;> cases required <;>
    simp [text, descriptionText, hname, htype, hrequired, hdescription]

theorem compactMembers_description (f : FieldSpec) :
    CompactMembers f.descriptionText
      (f.description.map fun d => (some "description".toList, .string (some d.toList))).toList := by
  rw [descriptionText]
  cases f.description with
  | none => exact .nil
  | some d =>
    have h := CompactMembers.cons "description".toList (Json.State.run_quote d.toList) .nil
    rwa [List.append_nil] at h

theorem read?_tree_text (f : FieldSpec) : Tree.read? f.text.toList = some f.tree := by
  have hmembers := CompactMembers.cons "type".toList (Json.State.run_quote f.type.name.toList)
    (.cons "required".toList (Json.compact_bool f.required) f.compactMembers_description)
  rw [toList_text]
  exact Json.read?_of_compact
    (Json.compact_object "name".toList (Json.State.run_quote f.name.toList) hmembers)

theorem ofTree?_tree (f : FieldSpec) : ofTree? f.tree = some f := by
  obtain ⟨name, type, required, description⟩ := f
  cases description <;>
    simp [tree, ofTree?, Draft.addAll?, Draft.add?, Draft.finish?, textOf?, typeOf?, boolOf?,
      optionalTextOf?, FieldType.ofName?_name]

theorem read?_text (f : FieldSpec) : read? f.text = some f := by
  rw [read?, read?_tree_text, Option.bind_some, ofTree?_tree]

/-! ## one member -/

section
variable {α : Type} (name : String) (read : Tree → Option α)

/-- a member stands once among others and has the value that it is read to, or it is not there -/
inductive Held (members : List (Option (List Char) × Tree)) : Option α → Prop
  | absent (h : ∀ m ∈ members, m.1 ≠ some name.toList) : Held members none
  | once {before after : List (Option (List Char) × Tree)} {t : Tree} {a : α}
    (hmembers : members = before ++ (some name.toList, t) :: after)
    (hbefore : ∀ m ∈ before, m.1 ≠ some name.toList)
    (hafter : ∀ m ∈ after, m.1 ≠ some name.toList) (hread : read t = some a) :
    Held members (some a)

/-- what one member makes of the value that has been read for `name` so far -/
def hold? (o : Option α) (k : String) (t : Tree) : Option (Option α) :=
  if k = name then if o.isSome then none else (read t).map some else some o

def holdAll? (o : Option α) : List (Option (List Char) × Tree) → Option (Option α)
  | [] => some o
  | (k, t) :: r => k.bind fun k => (hold? name read o (String.ofList k) t).bind (holdAll? · r)

variable {name read} {members : List (Option (List Char) × Tree)} {o : Option α} {a : α}

theorem some_ne_toList_iff {k : List Char} :
    some k ≠ some name.toList ↔ String.ofList k ≠ name := by
  rw [ne_eq, ne_eq, Option.some.injEq, ← String.toList_inj, String.toList_ofList]

/-- the member of its own name fills a value that is not there yet -/
theorem hold?_bind_some {β : Type} (f : Option α → β) (o : Option α) (t : Tree) :
    ((hold? name read o name t).bind fun o => some (f o)) =
      if o.isSome then none else (read t).map fun a => f (some a) := by
  rw [hold?, if_pos rfl]
  split
  · rfl
  · cases read t <;> rfl

theorem hold?_of_ne {k : String} (h : k ≠ name) (o : Option α) (t : Tree) :
    hold? name read o k t = some o := if_neg h

theorem Held.cons {k : List Char} (hk : String.ofList k ≠ name) (t : Tree)
    (h : Held name read members o) : Held name read ((some k, t) :: members) o := by
  have hne : ((some k, t) : Option (List Char) × Tree).1 ≠ some name.toList :=
    some_ne_toList_iff.2 hk
  cases h with
  | absent h => exact .absent (List.forall_mem_cons.2 ⟨hne, h⟩)
  | once hmembers hbefore hafter hread =>
    refine .once ?_ (List.forall_mem_cons.2 ⟨hne, hbefore⟩) hafter hread
    rw [hmembers, List.cons_append]

theorem Held.of_cons {k : List Char} (hk : String.ofList k ≠ name) {t : Tree}
    (h : Held name read ((some k, t) :: members) o) : Held name read members o := by
  cases h with
  | absent h => exact .absent (List.forall_mem_cons.1 h).2
  | @once before _ _ _ hmembers hbefore hafter hread =>
    cases before with
    | nil =>
      have hname := congrArg Prod.fst (List.cons.inj hmembers).1
      exact absurd hname (some_ne_toList_iff.2 hk)
    | cons m before =>
      obtain ⟨-, hr⟩ := List.cons.inj hmembers
      exact .once hr (List.forall_mem_cons.1 hbefore).2 hafter hread

theorem held_cons_self_iff {t : Tree} :
    Held name read ((some name.toList, t) :: members) o ↔
      (∃ a, read t = some a ∧ o = some a) ∧ ∀ m ∈ members, m.1 ≠ some name.toList := by
  constructor
  · intro h
    cases h with
    | absent h => exact absurd rfl (List.forall_mem_cons.1 h).1
    | @once before _ _ a hmembers hbefore hafter hread =>
      cases before with
      | nil =>
        cases hmembers
        exact ⟨⟨a, hread, rfl⟩, hafter⟩
      | cons m before =>
        obtain ⟨rfl, -⟩ := List.cons.inj hmembers
        exact absurd rfl (List.forall_mem_cons.1 hbefore).1
  · rintro ⟨⟨a, hread, rfl⟩, hafter⟩
    exact .once (List.nil_append _).symm (List.forall_mem_nil _) hafter hread

/-- once a value has been read the member may not come again -/
theorem holdAll?_some_eq_some_iff :
    holdAll? name read (some a) members = some o ↔
      o = some a ∧ ∀ m ∈ members, m.1.isSome = true ∧ m.1 ≠ some name.toList := by
  induction members with
  | nil => exact ⟨fun h => ⟨(Option.some.inj h).symm, nofun⟩, fun h => congrArg some h.1.symm⟩
  | cons m r ih =>
    obtain ⟨k, t⟩ := m
    rw [List.forall_mem_cons, holdAll?]
    cases k with
    | none => exact iff_of_false nofun fun h => nomatch h.2.1.1
    | some k =>
      rw [Option.bind_some]
      by_cases hk : String.ofList k = name
      · rw [hold?, if_pos hk]
        exact iff_of_false nofun fun h => some_ne_toList_iff.1 h.2.1.2 hk
      · rw [hold?_of_ne hk, Option.bind_some, ih]
        exact and_congr_right fun _ => (and_iff_right ⟨rfl, some_ne_toList_iff.2 hk⟩).symm

/-- all members in turn read the one that is held, if every name is a text -/
theorem holdAll?_none_eq_some_iff :
    holdAll? name read none members = some o ↔
      (∀ m ∈ members, m.1.isSome = true) ∧ Held name read members o := by
  induction members with
  | nil =>
    constructor
    · intro h
      cases h
      exact ⟨List.forall_mem_nil _, .absent (List.forall_mem_nil _)⟩
    · rintro ⟨-, h⟩
      cases h with
      | absent => rfl
      | @once before _ _ _ hmembers => cases before <;> cases hmembers
  | cons m r ih =>
    obtain ⟨k, t⟩ := m
    rw [List.forall_mem_cons, holdAll?]
    cases k with
    | none => exact iff_of_false nofun fun h => nomatch h.1.1
    | some k =>
      have hsome : ((some k, t) : Option (List Char) × Tree).1.isSome = true := rfl
      rw [Option.bind_some, and_iff_right hsome]
      by_cases hk : String.ofList k = name
      · obtain rfl : k = name.toList := by rw [← hk, String.toList_ofList]
        rw [hold?, if_pos hk, held_cons_self_iff]
        cases hread : read t with
        | none => exact iff_of_false nofun fun h => nomatch h.2.1
        | some a =>
          show holdAll? name read (some a) r = some o ↔ _
          rw [holdAll?_some_eq_some_iff]
          constructor
          · rintro ⟨rfl, h⟩
            exact ⟨fun m hm => (h m hm).1, ⟨a, rfl, rfl⟩, fun m hm => (h m hm).2⟩
          · rintro ⟨hnamed, ⟨a', ha, rfl⟩, hafter⟩
            cases ha
            exact ⟨rfl, fun m hm => ⟨hnamed m hm, hafter m hm⟩⟩
      · rw [hold?_of_ne hk, Option.bind_some, ih]
        exact and_congr_right fun _ => ⟨.cons hk t, .of_cons hk⟩

end

/-! ## all members -/

namespace Draft

theorem add?_eq (d : Draft) (k : String) (t : Tree) :
    d.add? k t =
      (hold? "name" textOf? d.name k t).bind fun name =>
        (hold? "type" typeOf? d.type k t).bind fun type =>
          (hold? "required" boolOf? d.required k t).bind fun required =>
            (hold? "description" optionalTextOf? d.description k t).bind fun description =>
              some ⟨name, type, required, description⟩ := by
  unfold add?
  split
  iterate 4
    simp (disch := decide) only [hold?_of_ne, Option.bind_some]
    rw [hold?_bind_some]
  · rename_i hname htype hrequired hdescription
    rw [hold?_of_ne hname, hold?_of_ne htype, hold?_of_ne hrequired, hold?_of_ne hdescription]
    rfl

theorem add?_eq_some_iff {d e : Draft} {k : String} {t : Tree} :
    d.add? k t = some e ↔
      hold? "name" textOf? d.name k t = some e.name ∧
        hold? "type" typeOf? d.type k t = some e.type ∧
        hold? "required" boolOf? d.required k t = some e.required ∧
        hold? "description" optionalTextOf? d.description k t = some e.description := by
  rw [add?_eq]
  constructor
  · intro h
    obtain ⟨name, hname, h⟩ := Option.bind_eq_some_iff.1 h
    obtain ⟨type, htype, h⟩ := Option.bind_eq_some_iff.1 h
    obtain ⟨required, hrequired, h⟩ := Option.bind_eq_some_iff.1 h
    obtain ⟨description, hdescription, h⟩ := Option.bind_eq_some_iff.1 h
    cases h
    exact ⟨hname, htype, hrequired, hdescription⟩
  · rintro ⟨hname, htype, hrequired, hdescription⟩
    rw [hname, htype, hrequired, hdescription]
    rfl

theorem addAll?_eq_some_iff {d e : Draft} {members : List (Option (List Char) × Tree)} :
    d.addAll? members = some e ↔
      holdAll? "name" textOf? d.name members = some e.name ∧
        holdAll? "type" typeOf? d.type members = some e.type ∧
        holdAll? "required" boolOf? d.required members = some e.required ∧
        holdAll? "description" optionalTextOf? d.description members = some e.description := by
  induction members generalizing d with
  | nil =>
    obtain ⟨name, type, required, description⟩ := d
    obtain ⟨name', type', required', description'⟩ := e
    simp [addAll?, holdAll?]
  | cons m r ih =>
    obtain ⟨k, t⟩ := m
    cases k with
    | none => exact iff_of_false nofun nofun
    | some k =>
      simp only [addAll?, holdAll?, Option.bind_some, Option.bind_eq_some_iff, add?_eq_some_iff, ih]
      constructor
      · rintro ⟨d', ⟨hname, htype, hrequired, hdescription⟩, hname', htype', hrequired',
          hdescription'⟩
        exact ⟨⟨_, hname, hname'⟩, ⟨_, htype, htype'⟩, ⟨_, hrequired, hrequired'⟩,
          _, hdescription, hdescription'⟩
      · rintro ⟨⟨name, hname, hname'⟩, ⟨type, htype, htype'⟩, ⟨required, hrequired, hrequired'⟩,
          description, hdescription, hdescription'⟩
        exact ⟨⟨name, type, required, description⟩, ⟨hname, htype, hrequired, hdescription⟩, hname',
          htype', hrequired', hdescription'⟩

end Draft

/-- Members declare a field: every name is a text, no member of a field is repeated, the name is
there, and what is not there has its default. -/
structure DeclaredBy (members : List (Option (List Char) × Tree)) (f : FieldSpec) : Prop where
  named : ∀ m ∈ members, m.1.isSome = true
  name : Held "name" textOf? members (some f.name)
  type : ∃ o, Held "type" typeOf? members o ∧ f.type = o.getD .any
  required : ∃ o, Held "required" boolOf? members o ∧ f.required = o.getD true
  description : ∃ o, Held "description" optionalTextOf? members o ∧ f.description = o.getD none

def memberNames : List (Option (List Char)) :=
  ["name", "type", "required", "description"].map fun s => some s.toList

/-- the trees that declare a field: objects, and arrays of at most four values for the members in
the order of declaration -/
inductive Declares : Tree → FieldSpec → Prop
  | object {members : List (Option (List Char) × Tree)} {f : FieldSpec} (h : DeclaredBy members f) :
    Declares (.object members) f
  | array {items : List Tree} {f : FieldSpec} (hlength : items.length ≤ 4)
    (h : DeclaredBy (memberNames.zip items) f) : Declares (.array items) f

theorem declaredBy_iff {members : List (Option (List Char) × Tree)} {f : FieldSpec} :
    (Draft.addAll? {} members).bind Draft.finish? = some f ↔ DeclaredBy members f := by
  simp only [Option.bind_eq_some_iff, Draft.addAll?_eq_some_iff, holdAll?_none_eq_some_iff]
  constructor
  · rintro ⟨d, ⟨⟨hnamed, hname⟩, ⟨-, htype⟩, ⟨-, hrequired⟩, -, hdescription⟩, h⟩
    obtain ⟨name, hd, rfl⟩ := Option.map_eq_some_iff.1 h
    exact ⟨hnamed, hd ▸ hname, ⟨_, htype, rfl⟩, ⟨_, hrequired, rfl⟩, _, hdescription, rfl⟩
  · obtain ⟨name, type, required, description⟩ := f
    rintro ⟨hnamed, hname, ⟨otype, htype, rfl⟩, ⟨orequired, hrequired, rfl⟩, odescription,
      hdescription, rfl⟩
    exact ⟨⟨some name, otype, orequired, odescription⟩, ⟨⟨hnamed, hname⟩, ⟨hnamed, htype⟩,
      ⟨hnamed, hrequired⟩, hnamed, hdescription⟩, rfl⟩

/-- The trees that are read to a field are those that declare it. -/
theorem ofTree?_eq_some_iff {t : Tree} {f : FieldSpec} : ofTree? t = some f ↔ Declares t f := by
  constructor
  · intro h
    cases t with
    | object members => exact .object (declaredBy_iff.1 h)
    | array items =>
      rw [ofTree?, ofItems?] at h
      split at h
      · exact .array ‹_› (declaredBy_iff.1 h)
      · cases h
    | _ => cases h
  · intro h
    cases h with
    | object h => exact declaredBy_iff.2 h
    | array hlength h =>
      rw [ofTree?, ofItems?, if_pos hlength]
      exact declaredBy_iff.2 h

theorem read?_eq_some_iff {s : String} {f : FieldSpec} :
    read? s = some f ↔ ∃ t, Tree.read? s.toList = some t ∧ Declares t f := by
  rw [read?, Option.bind_eq_some_iff]
  exact exists_congr fun t => and_congr_right fun _ => ofTree?_eq_some_iff

/-- **A field that is written is read back**, and what is written is the tree of its members in the
order of declaration.  A text is read to a field exactly if its tree declares that one, and what was
read from any text is read again from the text that is written of it. -/
theorem text_read_back :
    (∀ f : FieldSpec, Tree.read? f.text.toList = some f.tree ∧ read? f.text = some f) ∧
      (∀ (s : String) (f : FieldSpec),
        read? s = some f ↔ ∃ t, Tree.read? s.toList = some t ∧ Declares t f) ∧
      ∀ s : String, ((read? s).map text).bind read? = read? s := by
  refine ⟨fun f => ⟨read?_tree_text f, read?_text f⟩, fun s f => read?_eq_some_iff, fun s => ?_⟩
  cases h : read? s with
  | none => rfl
  | some f => rw [Option.map_some, Option.bind_some, read?_text]

-- members in another order, one of them unknown, and null for the type's own value
example :
    read? "\x7b\"description\":null,\"x\":1,\"type\":\x7b\"array\":null\x7d,\"name\":\"a\"\x7d" =
      some { name := "a", type := .array } := by
  decide +kernel

end FieldSpec

end PromptDispatch

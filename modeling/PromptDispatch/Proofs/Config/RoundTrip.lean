import PromptDispatch.Proofs.Config.Members
import PromptDispatch.Proofs.Config.Validity

/-!
# Configurations that are read back

What a configuration was read from may be written in many ways; what it is written as is read as
that configuration again.  Declared entries are read back whatever they are, those that are left out
among them; the others because they were read before, where they stand now.

* `Config.field?_fieldNode`          fields;
* `Config.SchemaEntry.Kept.readsBack`, `Config.Profile.Kept.readsBack`,
  `Config.Defaults.Kept.readsBack`   the levels of a configuration;
* `Config.Kept.readsBack`            a whole one whose entries are kept;
* `Config.kept_of_read?`             one that was read is such a one;
* `Config.read_back`                 and so it is read back.
-/

namespace PromptDispatch

open Yaml (Node Value)

namespace Config

/-! ## fields -/

theorem fieldType?_ofText (t : FieldType) : fieldType? (.ofText t.name) = some t :=
  FieldType.ofName?_name t

theorem optional?_ofText (s : String) :
    Node.optional? Node.text? (.ofText s) = some (some s) := by
  rw [Node.optional?, Node.isNull?_ofText]
  rfl

theorem field?_fieldNode (f : FieldSpec) :
    field? (fieldNode f) = some f ∧ (fieldNode f).depth ≤ 1 := by
  obtain ⟨name, type, required, description⟩ := f
  have htype := fieldType?_ofText type
  have hrequired := Node.bool?_ofBool required
  rw [field?, fieldNode, members?_ofMembers]
  cases description with
  | none =>
    refine ⟨?_, le_rfl⟩
    simp [optionalMember, member?, List.lookup_cons, Node.text?_ofText, htype, hrequired]
  | some description =>
    refine ⟨?_, le_rfl⟩
    have hdescription := optional?_ofText description
    simp [optionalMember, member?, List.lookup_cons, Node.text?_ofText, htype, hrequired,
      hdescription]

theorem items?_fieldNodes (fields : List FieldSpec) :
    (Node.sequence (fields.map fieldNode) none).items?.bind (·.mapM field?) = some fields ∧
      (Node.sequence (fields.map fieldNode) none).depth ≤ 2 := by
  refine ⟨mapM_map_eq_some fun f _ => (field?_fieldNode f).1, Nat.succ_le_succ ?_⟩
  induction fields with
  | nil => exact Nat.zero_le 1
  | cons f r ih => exact max_le (field?_fieldNode f).2 ih

/-! ## schemas -/

def SchemaEntry.Kept (e : SchemaEntry) (d : Nat) : Prop := Extra.Kept ["fields"] e.extra d

theorem SchemaEntry.kept_of_ofNode? {n : Node} {e : SchemaEntry} {d : Nat}
    (h : ofNode? n = some e) (hn : n.depth ≤ d + 1) : e.Kept d := by
  obtain ⟨⟨members, extra⟩, hsplit, h⟩ := Option.bind_eq_some_iff.1 h
  obtain ⟨fields, -, h⟩ := Option.bind_eq_some_iff.1 h
  cases h
  exact (kept_of_split? hsplit hn).2

theorem SchemaEntry.Kept.readsBack {e : SchemaEntry} {d : Nat} (h : e.Kept d) (hd : 2 ≤ d) :
    ofNode? e.toNode = some e ∧ e.toNode.depth ≤ d + 1 := by
  obtain ⟨hfields, hdepth⟩ := items?_fieldNodes e.fields
  obtain ⟨hsplit, hle⟩ := split?_ofMembers h [("fields", .sequence (e.fields.map fieldNode) none)]
    (by decide) (List.Sublist.refl _) (List.forall_mem_singleton.2 (hdepth.trans hd))
  refine ⟨?_, hle⟩
  have htoNode : e.toNode = .ofMembers ([("fields", .sequence (e.fields.map fieldNode) none)] ++
    extraMembers e.extra) := rfl
  rw [ofNode?, htoNode, hsplit]
  simp [member?, hfields]

/-! ## profiles -/

def Profile.Kept (p : Profile) (d : Nat) : Prop :=
  Extra.Kept ["kind", "command", "timeout_seconds", "environment"] p.extra d

theorem Profile.kept_of_ofNode? {n : Node} {p : Profile} {d : Nat}
    (h : ofNode? n = some p) (hn : n.depth ≤ d + 1) : p.Kept d := by
  obtain ⟨⟨members, extra⟩, hsplit, h⟩ := Option.bind_eq_some_iff.1 h
  obtain ⟨kind, -, h⟩ := Option.bind_eq_some_iff.1 h
  obtain ⟨command, -, h⟩ := Option.bind_eq_some_iff.1 h
  obtain ⟨timeout, -, h⟩ := Option.bind_eq_some_iff.1 h
  obtain ⟨environment, -, h⟩ := Option.bind_eq_some_iff.1 h
  cases h
  exact (kept_of_split? hsplit hn).2

def Profile.environment? (p : Profile) : Option (Dict String) :=
  if p.environment.isEmpty then none else some p.environment

def Profile.members (p : Profile) : List (String × Node) :=
  optionalMember "kind" Node.ofText p.kind ++
    (optionalMember "command" Node.ofText p.command ++
      (optionalMember "timeout_seconds" (fun n => Node.ofNat n.toNat) p.timeoutSeconds ++
        optionalMember "environment" environmentNode p.environment?))

theorem Profile.toNode_eq (p : Profile) :
    p.toNode = .ofMembers (p.members ++ extraMembers p.extra) := by
  rw [toNode, members, environment?]
  split
  · simp [optionalMember]
  · simp [optionalMember]

theorem Profile.keys_members (p : Profile) :
    (p.members.map Prod.fst).Sublist ["kind", "command", "timeout_seconds", "environment"] := by
  simp only [members, List.map_append]
  exact (keys_optionalMember _ _ _).append ((keys_optionalMember _ _ _).append
    ((keys_optionalMember _ _ _).append (keys_optionalMember _ _ _)))

theorem environmentNode_readsBack (environment : Dict String) :
    dict? Node.text? (environmentNode environment) = some environment ∧
      (environmentNode environment).depth ≤ 1 :=
  dict?_ofMembers (d := 0) fun e _ => ⟨Node.text?_ofText e.2, le_rfl⟩

theorem Profile.depth_members (p : Profile) : ∀ m ∈ p.members, m.2.depth ≤ 1 := by
  refine List.forall_mem_append.2 ⟨depth_optionalMember fun _ _ => Nat.zero_le 1, ?_⟩
  refine List.forall_mem_append.2 ⟨depth_optionalMember fun _ _ => Nat.zero_le 1, ?_⟩
  refine List.forall_mem_append.2 ⟨depth_optionalMember fun _ _ => Nat.zero_le 1, ?_⟩
  exact depth_optionalMember fun environment _ => (environmentNode_readsBack environment).2

section
variable (p : Profile)

theorem Profile.lookup_kind : p.members.lookup "kind" = p.kind.map Node.ofText := by
  simp [members, List.lookup_append, lookup_optionalMember]

theorem Profile.lookup_command : p.members.lookup "command" = p.command.map Node.ofText := by
  simp [members, List.lookup_append, lookup_optionalMember]

theorem Profile.lookup_timeout :
    p.members.lookup "timeout_seconds" = p.timeoutSeconds.map fun n => Node.ofNat n.toNat := by
  simp [members, List.lookup_append, lookup_optionalMember]

theorem Profile.lookup_environment :
    p.members.lookup "environment" = p.environment?.map environmentNode := by
  simp [members, List.lookup_append, lookup_optionalMember]

theorem Profile.member?_environment :
    member? p.members "environment" (some .empty) (dict? Node.text?) = some p.environment := by
  have hlookup := p.lookup_environment
  rw [environment?] at hlookup
  split at hlookup
  · rename_i hempty
    rw [member?_of_lookup_none hlookup]
    exact congrArg some (Dict.ext (List.isEmpty_iff.1 hempty).symm)
  · rw [member?_of_lookup hlookup]
    exact (environmentNode_readsBack p.environment).1

end

theorem Profile.Kept.readsBack {p : Profile} {d : Nat} (h : p.Kept d) (hd : 1 ≤ d) :
    ofNode? p.toNode = some p ∧ p.toNode.depth ≤ d + 1 := by
  obtain ⟨hsplit, hle⟩ := split?_ofMembers h p.members (by decide) p.keys_members
    fun m hm => (p.depth_members m hm).trans hd
  rw [p.toNode_eq]
  refine ⟨?_, hle⟩
  have hkind := member?_optional p.lookup_kind fun s => ⟨Node.isNull?_ofText s, Node.text?_ofText s⟩
  have hcommand :=
    member?_optional p.lookup_command fun s => ⟨Node.isNull?_ofText s, Node.text?_ofText s⟩
  have htimeout :=
    member?_optional p.lookup_timeout fun n => ⟨Node.isNull?_ofNat n.toNat, Node.unsigned?_ofNat n⟩
  rw [ofNode?, hsplit]
  simp [hkind, hcommand, htimeout, p.member?_environment]

/-! ## defaults -/

def Defaults.Kept (x : Defaults) (d : Nat) : Prop := Extra.Kept ["timeout_seconds"] x.extra d

theorem Defaults.kept_of_ofNode? {n : Node} {x : Defaults} {d : Nat}
    (h : ofNode? n = some x) (hn : n.depth ≤ d + 1) : x.Kept d := by
  obtain ⟨⟨members, extra⟩, hsplit, h⟩ := Option.bind_eq_some_iff.1 h
  obtain ⟨timeout, -, h⟩ := Option.bind_eq_some_iff.1 h
  cases h
  exact (kept_of_split? hsplit hn).2

theorem Defaults.Kept.readsBack {x : Defaults} {d : Nat} (h : x.Kept d) :
    ofNode? x.toNode = some x ∧ x.toNode.depth ≤ d + 1 := by
  obtain ⟨hsplit, hle⟩ := split?_ofMembers h [("timeout_seconds", .ofNat x.timeoutSeconds.toNat)]
    (by decide) (List.Sublist.refl _) (List.forall_mem_singleton.2 (Nat.zero_le d))
  refine ⟨?_, hle⟩
  have htoNode : x.toNode = .ofMembers ([("timeout_seconds", .ofNat x.timeoutSeconds.toNat)] ++
    extraMembers x.extra) := rfl
  rw [ofNode?, htoNode, hsplit]
  simp [member?, Node.unsigned?_ofNat]

/-! ## configurations -/

/-- Every entry that is not declared is kept at its level, where the configuration is nested at most
`d + 3` deep. -/
structure Kept (c : Config) (d : Nat) : Prop where
  extra : Extra.Kept ["defaults", "agents", "schemas"] c.extra (d + 2)
  defaults : c.defaults.Kept (d + 1)
  agents : ∀ e ∈ c.agents.entries, e.2.Kept d
  schemas : ∀ e ∈ c.schemas.entries, e.2.Kept d

variable {c : Config} {d : Nat}

theorem kept_default (d : Nat) : Kept {} d :=
  ⟨Extra.kept_empty _ _, Extra.kept_empty _ _, nofun, nofun⟩

theorem kept_of_ofNode? {n : Node} (h : ofNode? n = some c) (hn : n.depth ≤ d + 3) : c.Kept d := by
  obtain ⟨⟨members, extra⟩, hsplit, h⟩ := Option.bind_eq_some_iff.1 h
  obtain ⟨defaults, hdefaults, h⟩ := Option.bind_eq_some_iff.1 h
  obtain ⟨agents, hagents, h⟩ := Option.bind_eq_some_iff.1 h
  obtain ⟨schemas, hschemas, h⟩ := Option.bind_eq_some_iff.1 h
  cases h
  obtain ⟨hmembers, hextra⟩ := kept_of_split? hsplit hn
  have hdefaultsKept : defaults.Kept (d + 1) := by
    refine of_member? (P := fun x => x.Kept (d + 1)) hdefaults ?_ fun m hm x hx => ?_
    · rintro _ ⟨⟩
      exact Extra.kept_empty _ _
    · exact Defaults.kept_of_ofNode? hx (hmembers m hm)
  exact ⟨hextra, hdefaultsKept,
    forall_of_member? hagents hmembers fun _ _ hn hp => Profile.kept_of_ofNode? hp hn,
    forall_of_member? hschemas hmembers fun _ _ hn he => SchemaEntry.kept_of_ofNode? he hn⟩

theorem kept_of_read? {s : String} (h : read? s = some c) : c.Kept 125 := by
  obtain ⟨document, -, h⟩ := Option.bind_eq_some_iff.1 h
  cases document with
  | none =>
    cases h
    exact kept_default 125
  | some n =>
    simp only at h
    split at h
    · exact kept_of_ofNode? h ‹_›
    · cases h

theorem read?_of_ofYaml {text : String} (h : ofYaml text = .ok c) : read? text = some c := by
  rw [ofYaml] at h
  split at h
  · cases h
  · rename_i c' hread
    obtain ⟨-, -, rfl⟩ := Except.map_eq_ok_iff.1 h
    exact hread

def members (c : Config) : List (String × Node) :=
  [("defaults", c.defaults.toNode),
    ("agents", .ofMembers (c.agents.entries.map fun e => (e.1, e.2.toNode))),
    ("schemas", .ofMembers (c.schemas.entries.map fun e => (e.1, e.2.toNode)))]

theorem Kept.readsBack (h : c.Kept d) (hd : 2 ≤ d) :
    ofNode? c.toNode = some c ∧ c.toNode.depth ≤ d + 3 := by
  obtain ⟨hdefaults, hdefaultsDepth⟩ := h.defaults.readsBack
  obtain ⟨hagents, hagentsDepth⟩ := dict?_ofMembers fun e he =>
    (h.agents e he).readsBack (Nat.le_of_succ_le hd)
  obtain ⟨hschemas, hschemasDepth⟩ := dict?_ofMembers fun e he => (h.schemas e he).readsBack hd
  have hdepth : ∀ m ∈ c.members, m.2.depth ≤ d + 2 := by
    rw [members, List.forall_mem_cons, List.forall_mem_cons, List.forall_mem_singleton]
    exact ⟨hdefaultsDepth, hagentsDepth, hschemasDepth⟩
  obtain ⟨hsplit, hle⟩ :=
    split?_ofMembers h.extra c.members (by decide) (List.Sublist.refl _) hdepth
  have htoNode : c.toNode = .ofMembers (c.members ++ extraMembers c.extra) := rfl
  rw [htoNode]
  refine ⟨?_, hle⟩
  rw [ofNode?, hsplit]
  simp [members, member?, List.lookup_cons, hdefaults, hagents, hschemas]

/-- **A configuration survives being written and read**: the node that is printed for one that was
read from a text is nested no deeper than a configuration may be, is read as that configuration, with
the same entries at each level whether they are declared or not, and passes again. -/
theorem read_back {text : String} (h : ofYaml text = .ok c) :
    c.toNode.depth ≤ depthLimit ∧ ofNode? c.toNode = some c ∧ c.validate = .ok () := by
  have hkept : c.Kept 125 := kept_of_read? (read?_of_ofYaml h)
  obtain ⟨hread, hdepth⟩ := hkept.readsBack (by decide)
  exact ⟨hdepth, hread, validate_eq_ok_iff.2 (valid_of_ofYaml h)⟩

/-- a text with entries that are not declared at all four levels, among them a text that looks like
a number, a number that is none, and a mapping whose keys are no texts -/
def extendedText : String :=
  "version: \"2\"\ndefaults:\n  ratio: .nan\nagents:\n  claude:\n    kind: gemini\n" ++
    "    labels:\n      1: [0.5, null]\n      true: high\nschemas:\n  note:\n    fields:\n" ++
    "      - name: text\n    owner: me\n"

theorem read_back_extended :
    ∃ c, ofYaml extendedText = .ok c ∧ c.extra.keys = ["version"] ∧
      c.defaults.extra.keys = ["ratio"] ∧
      (c.agents.get? "claude").map (·.extra.keys) = some ["labels"] ∧
      (c.schemas.get? "note").map (·.extra.keys) = some ["owner"] ∧
      c.toNode.depth ≤ depthLimit ∧ ofNode? c.toNode = some c ∧ c.validate = .ok () := by
  have hkeys : (ofYaml extendedText).toOption.map (fun c => (c.extra.keys, c.defaults.extra.keys,
      (c.agents.get? "claude").map (·.extra.keys), (c.schemas.get? "note").map (·.extra.keys))) =
      some (["version"], ["ratio"], some ["labels"], some ["owner"]) := by
    decide +kernel
  cases hc : ofYaml extendedText with
  | error e =>
    rw [hc] at hkeys
    cases hkeys
  | ok c =>
    rw [hc] at hkeys
    simp only [Except.toOption, Option.map_some, Option.some.injEq, Prod.mk.injEq] at hkeys
    obtain ⟨htop, hdefaults, hagents, hschemas⟩ := hkeys
    exact ⟨c, rfl, htop, hdefaults, hagents, hschemas, read_back hc⟩

end Config

end PromptDispatch

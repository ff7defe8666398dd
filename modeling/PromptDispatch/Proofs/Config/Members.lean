import Mathlib.Data.List.Forall2
import PromptDispatch.Config.Reader
import PromptDispatch.Config.Writer
import PromptDispatch.Proofs.Dict.Entries
import PromptDispatch.Proofs.Yaml.Value

/-!
# Entries of a mapping

A mapping is written with its declared entries first and those that are not declared after them.  It
is read by the keys, whatever the order, so the two have to be told apart by their keys alone:
`Extra.Kept` says of the entries of one level that no key of theirs is declared there, and that each
value is read back.

* `Config.members?_ofMembers`, `Config.dict?_ofMembers`   mappings without declared entries;
* `Config.split?_ofMembers`   what was put together is separated again;
* `Config.kept_of_split?`     what is separated has entries that are kept;
* `Config.member?_optional`   a declared entry that may be left out.
-/

namespace PromptDispatch

open Yaml (Node Value)

/-- Entries that stay where they are: no declared key is among theirs, and each value is read back
from a node that is nested at most `d` deep. -/
structure Extra.Kept (declared : List String) (extra : Extra) (d : Nat) : Prop where
  apart : ∀ e ∈ extra.entries, e.1 ∉ declared
  readsBack : ∀ e ∈ extra.entries, e.2.ReadsBack d

theorem Extra.kept_empty (declared : List String) (d : Nat) : Extra.Kept declared .empty d :=
  ⟨nofun, nofun⟩

namespace Config

/-! ## lists of entries -/

section
variable {α β : Type}

theorem mapM_eq_some_iff {l : List α} {l' : List β} {g : α → Option β} :
    l.mapM g = some l' ↔ List.Forall₂ (fun a b => g a = some b) l l' := by
  induction l generalizing l' with
  | nil => exact ⟨fun h => Option.some.inj h ▸ .nil, fun h => by cases h; rfl⟩
  | cons a l ih =>
    rw [List.mapM_cons]
    constructor
    · intro h
      obtain ⟨b, hb, h⟩ := Option.bind_eq_some_iff.1 h
      obtain ⟨bs, hbs, h⟩ := Option.bind_eq_some_iff.1 h
      cases h
      exact .cons hb (ih.1 hbs)
    · intro h
      cases h with
      | cons hb hbs =>
        rw [hb, ih.2 hbs]
        rfl

theorem isSome_mapM_iff {l : List α} {g : α → Option β} :
    (l.mapM g).isSome = true ↔ ∀ a ∈ l, (g a).isSome = true := by
  induction l with
  | nil => exact iff_of_true rfl nofun
  | cons a l ih =>
    rw [List.mapM_cons, List.forall_mem_cons, ← ih]
    cases g a with
    | none => simp
    | some b => cases l.mapM g <;> simp

theorem mapM_map_eq_some {l : List α} {f : α → β} {g : β → Option α}
    (h : ∀ a ∈ l, g (f a) = some a) : (l.map f).mapM g = some l := by
  rw [mapM_eq_some_iff, List.forall₂_map_left_iff, List.forall₂_same]
  exact h

theorem exists_of_mem_mapM {l : List α} {l' : List β} {g : α → Option β} {b : β}
    (h : l.mapM g = some l') (hb : b ∈ l') : ∃ a ∈ l, g a = some b := by
  have hforall := mapM_eq_some_iff.1 h
  clear h
  induction hforall with
  | nil => cases hb
  | @cons a b' l l' ha _ ih =>
    rcases List.mem_cons.1 hb with rfl | hb
    · exact ⟨a, List.mem_cons_self, ha⟩
    · obtain ⟨a', ha', hg⟩ := ih hb
      exact ⟨a', List.mem_cons_of_mem a ha', hg⟩

end

/-! ## mappings -/

section
variable {members : List (String × Node)} {n : Node} {d : Nat}

theorem depth_le_depthEntries {entries : List (Node × Node)} {e : Node × Node} (h : e ∈ entries) :
    e.2.depth ≤ Node.depthEntries entries := by
  induction entries with
  | nil => cases h
  | cons x r ih =>
    rw [Node.depthEntries]
    rcases List.mem_cons.1 h with rfl | h
    · omega
    · have := ih h
      omega

theorem depth_of_mem_members? {m : String × Node} (h : n.members? = some members)
    (hm : m ∈ members) : m.2.depth < n.depth := by
  obtain ⟨entries, hentries, hread⟩ := Option.bind_eq_some_iff.1 h
  obtain ⟨e, he, hkey⟩ := exists_of_mem_mapM hread hm
  obtain ⟨k, -, rfl⟩ := Option.map_eq_some_iff.1 hkey
  unfold Node.entries? at hentries
  split at hentries
  · cases hentries
    exact Nat.lt_succ_of_le (depth_le_depthEntries he)
  · split at hentries
    · cases hentries
      cases he
    · cases hentries

theorem members?_ofMembers (members : List (String × Node)) :
    (Node.ofMembers members).members? = some members :=
  mapM_map_eq_some fun _ _ => rfl

theorem depth_ofMembers_le (h : ∀ m ∈ members, m.2.depth ≤ d) :
    (Node.ofMembers members).depth ≤ d + 1 := by
  refine Nat.succ_le_succ ?_
  induction members with
  | nil => exact Nat.zero_le d
  | cons m r ih =>
    obtain ⟨hm, hr⟩ := List.forall_mem_cons.1 h
    exact max_le (max_le (Nat.zero_le d) hm) (ih hr)

end

/-! ## maps -/

section
variable {α : Type} {read : Node → Option α} {write : α → Node} {m : Dict α} {d : Nat}

theorem dict?_ofMembers
    (h : ∀ e ∈ m.entries, read (write e.2) = some e.2 ∧ (write e.2).depth ≤ d) :
    dict? read (.ofMembers (m.entries.map fun e => (e.1, write e.2))) = some m ∧
      (Node.ofMembers (m.entries.map fun e => (e.1, write e.2))).depth ≤ d + 1 := by
  refine ⟨?_, depth_ofMembers_le ?_⟩
  · rw [dict?, members?_ofMembers, Option.bind_some, mapM_map_eq_some fun e he => ?_]
    · exact congrArg some (Dict.ext (Entries.ofList_eq_self m.sorted))
    · rw [(h e he).1]
      rfl
  · rintro _ hm
    obtain ⟨e, he, rfl⟩ := List.mem_map.1 hm
    exact (h e he).2

theorem exists_of_dict? {n : Node} (h : dict? read n = some m) {e : String × α}
    (he : e ∈ m.entries) : ∃ n', n'.depth < n.depth ∧ read n' = some e.2 := by
  obtain ⟨members, hmembers, h⟩ := Option.bind_eq_some_iff.1 h
  obtain ⟨l, hl, rfl⟩ := Option.map_eq_some_iff.1 h
  obtain ⟨x, hx, hread⟩ := exists_of_mem_mapM hl (Entries.mem_of_mem_ofList he)
  obtain ⟨a, ha, rfl⟩ := Option.map_eq_some_iff.1 hread
  exact ⟨x.2, depth_of_mem_members? hmembers hx, ha⟩

end

/-! ## entries that are not declared -/

section
variable {declared : List String} {known : List (String × Node)} {extra : Extra} {d : Nat}

theorem filter_declared (hknown : ∀ m ∈ known, m.1 ∈ declared) (h : Extra.Kept declared extra d) :
    (known ++ extraMembers extra).filter (fun m => decide (m.1 ∈ declared)) = known ∧
      (known ++ extraMembers extra).filter (fun m => decide (m.1 ∉ declared)) =
        extraMembers extra := by
  have hextra : ∀ m ∈ extraMembers extra, m.1 ∉ declared := by
    rintro _ hm
    obtain ⟨e, he, rfl⟩ := List.mem_map.1 hm
    exact h.apart e he
  rw [List.filter_append, List.filter_append]
  constructor
  · rw [List.filter_eq_self.2 fun m hm => decide_eq_true (hknown m hm),
      List.filter_eq_nil_iff.2 fun m hm => by simpa using hextra m hm, List.append_nil]
  · rw [List.filter_eq_nil_iff.2 fun m hm => by simpa using hknown m hm,
      List.filter_eq_self.2 fun m hm => decide_eq_true (hextra m hm), List.nil_append]

/-- **The entries of one level are separated as they were put together.** -/
theorem split?_ofMembers (h : Extra.Kept declared extra d) (known : List (String × Node))
    (hdeclared : declared.Nodup) (hknown : (known.map Prod.fst).Sublist declared)
    (hdepth : ∀ m ∈ known, m.2.depth ≤ d) :
    split? declared (.ofMembers (known ++ extraMembers extra)) = some (known, extra) ∧
      (Node.ofMembers (known ++ extraMembers extra)).depth ≤ d + 1 := by
  refine ⟨?_, depth_ofMembers_le (List.forall_mem_append.2 ⟨hdepth, ?_⟩)⟩
  · have hmem : ∀ m ∈ known, m.1 ∈ declared := fun m hm => hknown.subset (List.mem_map_of_mem hm)
    obtain ⟨hfilter, hothers⟩ := filter_declared hmem h
    have hread : (extraMembers extra).mapM (fun m => (Value.ofNode? m.2).map fun v => (m.1, v)) =
        some extra.entries := by
      refine mapM_map_eq_some fun e he => ?_
      rw [(h.readsBack e he).value]
      rfl
    have hself : Dict.ofList extra.entries = extra := Dict.ext (Entries.ofList_eq_self extra.sorted)
    rw [split?, members?_ofMembers, Option.bind_some]
    simp only [hfilter, hothers, if_pos (hdeclared.sublist hknown), hread, Option.map_some, hself]
  · rintro _ hm
    obtain ⟨e, he, rfl⟩ := List.mem_map.1 hm
    exact (h.readsBack e he).depth_le

theorem kept_of_split? {n : Node} (h : split? declared n = some (known, extra))
    (hn : n.depth ≤ d + 1) : (∀ m ∈ known, m.2.depth ≤ d) ∧ Extra.Kept declared extra d := by
  obtain ⟨members, hmembers, h⟩ := Option.bind_eq_some_iff.1 h
  have hdepth : ∀ m ∈ members, m.2.depth ≤ d := fun m hm =>
    Nat.le_of_lt_succ (Nat.lt_of_lt_of_le (depth_of_mem_members? hmembers hm) hn)
  simp only at h
  split at h
  · obtain ⟨l, hl, hsome⟩ := Option.map_eq_some_iff.1 h
    cases hsome
    have hextra (e : String × Value) (he : e ∈ (Dict.ofList l).entries) :
        ∃ m ∈ members, m.1 ∉ declared ∧ m.1 = e.1 ∧ Value.ofNode? m.2 = some e.2 := by
      obtain ⟨m, hm, hread⟩ := exists_of_mem_mapM hl (Entries.mem_of_mem_ofList he)
      obtain ⟨v, hv, rfl⟩ := Option.map_eq_some_iff.1 hread
      obtain ⟨hm, hkey⟩ := List.mem_filter.1 hm
      exact ⟨m, hm, of_decide_eq_true hkey, rfl, hv⟩
    refine ⟨fun m hm => hdepth m (List.mem_of_mem_filter hm), ⟨fun e he => ?_, fun e he => ?_⟩⟩
    · obtain ⟨m, -, hkey, hm, -⟩ := hextra e he
      exact hm ▸ hkey
    · obtain ⟨m, hm, -, -, hv⟩ := hextra e he
      obtain ⟨hvalue, hle⟩ := Value.readsBack_of_ofNode? m.2 hv
      exact ⟨hvalue, hle.trans (hdepth m hm)⟩
  · cases h

end

/-! ## declared entries -/

section
variable {α : Type} {members : List (String × Node)} {key : String} {missing : Option α}
  {read : Node → Option α} {write : α → Node} {a : α} {d : Nat}

theorem member?_of_lookup {n : Node} (h : members.lookup key = some n) :
    member? members key missing read = read n := by
  rw [member?, h]

theorem member?_of_lookup_none (h : members.lookup key = none) :
    member? members key missing read = missing := by
  rw [member?, h]

/-- what holds of what stands for a missing entry, and of all that is read, holds of the entry -/
theorem of_member? {P : α → Prop} (h : member? members key missing read = some a)
    (hmissing : ∀ a, missing = some a → P a)
    (hread : ∀ m ∈ members, ∀ a, read m.2 = some a → P a) : P a := by
  cases hn : members.lookup key with
  | none => exact hmissing a ((member?_of_lookup_none hn).symm.trans h)
  | some n => exact hread _ (Entries.mem_of_lookup hn) a ((member?_of_lookup hn).symm.trans h)

theorem forall_of_member? {m : Dict α} {P : α → Prop}
    (h : member? members key (some .empty) (dict? read) = some m)
    (hmembers : ∀ e ∈ members, e.2.depth ≤ d + 2)
    (hread : ∀ n a, n.depth ≤ d + 1 → read n = some a → P a) : ∀ e ∈ m.entries, P e.2 := by
  refine of_member? (P := fun m => ∀ e ∈ m.entries, P e.2) h ?_ fun n hn m hm e he => ?_
  · rintro _ ⟨⟩
    exact nofun
  · obtain ⟨n', hlt, ha⟩ := exists_of_dict? hm he
    exact hread n' e.2 (Nat.le_of_lt_succ (Nat.lt_of_lt_of_le hlt (hmembers n hn))) ha

theorem lookup_optionalMember (k : String) (o : Option α) :
    (optionalMember key write o).lookup k = if k = key then o.map write else none := by
  cases o with
  | none => exact (ite_self none).symm
  | some a => exact Entries.lookup_cons k (key, write a) []

theorem keys_optionalMember (key : String) (write : α → Node) (o : Option α) :
    ((optionalMember key write o).map Prod.fst).Sublist [key] := by
  cases o with
  | none => exact List.nil_sublist _
  | some a => exact List.Sublist.refl _

theorem depth_optionalMember {o : Option α} (h : ∀ a, o = some a → (write a).depth ≤ d) :
    ∀ m ∈ optionalMember key write o, m.2.depth ≤ d := by
  cases o with
  | none => exact nofun
  | some a => exact List.forall_mem_singleton.2 (h a rfl)

theorem member?_optional {o : Option α} (h : members.lookup key = o.map write)
    (hread : ∀ a, (write a).isNull? = some false ∧ read (write a) = some a) :
    member? members key (some none) (Node.optional? read) = some o := by
  cases o with
  | none => exact member?_of_lookup_none h
  | some a =>
    rw [member?_of_lookup h, Node.optional?, (hread a).1, (hread a).2]
    rfl

end

end Config

end PromptDispatch

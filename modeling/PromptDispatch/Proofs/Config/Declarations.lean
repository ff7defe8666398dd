import Mathlib.Data.List.Dedup
import PromptDispatch.Proofs.Config.Members
import PromptDispatch.Proofs.Config.RoundTrip

/-!
# What a configuration keeps of its declarations

Agents and schemas are declared as entries of a mapping, which may have a key more than once.
`Config.Declared` says what is kept of such entries: each of them is read, and of those with one key
the last one stays, so that none is lost exactly where the keys are distinct.

* `Config.dict?_eq_some_iff`     a mapping is read whatever its keys are, and as `Declared` says;
* `Config.Declared.size_eq`      a map has as many entries as there are keys;
* `Config.declared_of_ofYaml`    the agents and the schemas of a configuration.
-/

namespace PromptDispatch.Config

open Yaml (Node)

/-! ## entries that are read -/

section
variable {α : Type} {read : Node → Option α} {written : List (String × Node)}

def readMember (read : Node → Option α) (m : String × Node) : Option (String × α) :=
  (read m.2).map fun v => (m.1, v)

theorem lookup_of_forall₂ {l : List (String × α)}
    (h : List.Forall₂ (fun m e => readMember read m = some e) written l) (k : String) :
    l.lookup k = (written.lookup k).bind read := by
  induction h with
  | nil => rfl
  | @cons m e written l hread _ ih =>
    obtain ⟨v, hv, rfl⟩ := Option.map_eq_some_iff.1 hread
    rw [Entries.lookup_cons, Entries.lookup_cons, ih]
    by_cases hk : k = m.1
    · rw [if_pos hk, if_pos hk]
      exact hv.symm
    · rw [if_neg hk, if_neg hk]

/-- What a map keeps of the entries that are written: each of them is read, and of those with one
key the last one stays. -/
structure Declared (read : Node → Option α) (written : List (String × Node)) (m : Dict α) :
    Prop where
  readable : ∀ e ∈ written, (read e.2).isSome = true
  last : ∀ k, m.get? k = (written.reverse.lookup k).bind read

namespace Declared

variable {m m' : Dict α}

theorem nil (read : Node → Option α) : Declared read [] .empty := ⟨nofun, fun _ => rfl⟩

theorem unique (h : Declared read written m) (h' : Declared read written m') : m = m' :=
  Dict.ext_get? fun k => (h.last k).trans (h'.last k).symm

theorem mem_keys_iff (h : Declared read written m) {k : String} :
    k ∈ m.keys ↔ k ∈ written.map Prod.fst := by
  have hreverse : k ∈ written.map Prod.fst ↔ (written.reverse.lookup k).isSome = true := by
    rw [Entries.lookup_isSome_iff, List.map_reverse, List.mem_reverse]
  rw [Dict.mem_keys_iff, h.last k, hreverse]
  cases hk : written.reverse.lookup k with
  | none => exact Iff.rfl
  | some n =>
    have hn : (read n).isSome = true :=
      h.readable (k, n) (List.mem_reverse.1 (Entries.mem_of_lookup hk))
    exact iff_of_true hn rfl

theorem size_eq (h : Declared read written m) :
    m.size = (written.map Prod.fst).dedup.length := by
  have hperm : m.keys.Perm (written.map Prod.fst).dedup := by
    refine (List.perm_ext_iff_of_nodup m.sorted.nodup (List.nodup_dedup _)).2 fun k => ?_
    rw [List.mem_dedup]
    exact h.mem_keys_iff
  calc m.size
    _ = m.keys.length := (List.length_map Prod.fst).symm
    _ = (written.map Prod.fst).dedup.length := hperm.length_eq

theorem size_eq_length_iff (h : Declared read written m) :
    m.size = written.length ↔ (written.map Prod.fst).Nodup := by
  rw [h.size_eq, ← List.dedup_eq_self]
  constructor
  · intro hlength
    refine (List.dedup_sublist _).eq_of_length ?_
    rw [hlength, List.length_map]
  · intro hself
    rw [hself, List.length_map]

end Declared

theorem isSome_readMembers_iff :
    (written.mapM (readMember read)).isSome = true ↔ ∀ e ∈ written, (read e.2).isSome = true := by
  rw [isSome_mapM_iff]
  refine forall₂_congr fun e _ => ?_
  rw [readMember, Option.isSome_map]

theorem declared_ofList {l : List (String × α)} (h : written.mapM (readMember read) = some l) :
    Declared read written (.ofList l) := by
  refine ⟨isSome_readMembers_iff.1 (Option.isSome_of_eq_some h), fun k => ?_⟩
  rw [Dict.get?_ofList]
  exact lookup_of_forall₂ (List.forall₂_reverse_iff.2 (mapM_eq_some_iff.1 h)) k

/-- a mapping is read if its entries are, whatever their keys -/
theorem dict?_eq_some_iff {n : Node} {m : Dict α} :
    dict? read n = some m ↔ ∃ written, n.members? = some written ∧ Declared read written m := by
  show n.members?.bind (fun ms => (ms.mapM (readMember read)).map Dict.ofList) = some m ↔ _
  constructor
  · intro h
    obtain ⟨written, hwritten, h⟩ := Option.bind_eq_some_iff.1 h
    obtain ⟨l, hl, rfl⟩ := Option.map_eq_some_iff.1 h
    exact ⟨written, hwritten, declared_ofList hl⟩
  · rintro ⟨written, hwritten, hm⟩
    obtain ⟨l, hl⟩ := Option.isSome_iff_exists.1 (isSome_readMembers_iff.2 hm.readable)
    -- there is one map of these entries, which is the one that is read
    obtain rfl : m = .ofList l := hm.unique (declared_ofList hl)
    rw [hwritten, Option.bind_some, hl, Option.map_some]

end

/-! ## entries of a document -/

def under (key : String) (n : Node) : List (String × Node) :=
  ((n.members?.getD []).filter fun m => m.1 = key).flatMap fun m => m.2.members?.getD []

def writtenUnder (text key : String) : List (String × Node) :=
  ((Yaml.Document.read? text.toList).join.map (under key)).getD []

section
variable {α : Type} {read : Node → Option α}

theorem filter_eq_of_lookup {l : List (String × Node)} (h : (l.map Prod.fst).Nodup) (key : String) :
    l.filter (fun m => m.1 = key) = ((l.lookup key).map fun n => (key, n)).toList := by
  induction l with
  | nil => rfl
  | cons m l ih =>
    obtain ⟨hm, hl⟩ := List.nodup_cons.1 h
    rw [Entries.lookup_cons]
    by_cases hkey : key = m.1
    · have hothers : l.filter (fun m => m.1 = key) = [] := by
        refine List.filter_eq_nil_iff.2 fun e he hek => hm ?_
        rw [← hkey, ← of_decide_eq_true hek]
        exact List.mem_map_of_mem he
      rw [if_pos hkey, List.filter_cons, if_pos (decide_eq_true hkey.symm), hothers, hkey]
      rfl
    · rw [if_neg hkey, List.filter_cons, if_neg (by simpa using Ne.symm hkey)]
      exact ih hl

/-- A declared key stands at most once, so that what is read of it is all that stands under it. -/
theorem declared_of_split? {declared : List String} {n : Node} {known : List (String × Node)}
    {extra : Extra} {key : String} {m : Dict α} (hsplit : split? declared n = some (known, extra))
    (hkey : key ∈ declared) (h : member? known key (some .empty) (dict? read) = some m) :
    Declared read (under key n) m := by
  obtain ⟨members, hmembers, hsplit⟩ := Option.bind_eq_some_iff.1 hsplit
  simp only at hsplit
  split at hsplit
  · rename_i hnodup
    obtain ⟨l, -, hsome⟩ := Option.map_eq_some_iff.1 hsplit
    cases hsome
    -- nothing that stands under a declared key is among the others
    have hknown : members.filter (fun m => m.1 = key) =
        (members.filter fun m => m.1 ∈ declared).filter (fun m => m.1 = key) := by
      rw [List.filter_filter]
      refine List.filter_congr fun m _ => ?_
      by_cases hm : m.1 = key
      · simp [hm, hkey]
      · simp [hm]
    rw [under, hmembers, Option.getD_some, hknown, filter_eq_of_lookup hnodup]
    cases hn : (members.filter fun m => m.1 ∈ declared).lookup key with
    | none =>
      rw [member?_of_lookup_none hn] at h
      cases h
      exact .nil read
    | some n =>
      rw [member?_of_lookup hn] at h
      obtain ⟨written, hwritten, hm⟩ := dict?_eq_some_iff.1 h
      simpa [hwritten] using hm
  · cases hsplit

end

theorem declared_of_read? {text : String} {c : Config} (h : read? text = some c) :
    Declared Profile.ofNode? (writtenUnder text "agents") c.agents ∧
      Declared SchemaEntry.ofNode? (writtenUnder text "schemas") c.schemas := by
  obtain ⟨document, hdocument, h⟩ := Option.bind_eq_some_iff.1 h
  rw [writtenUnder, writtenUnder, hdocument]
  cases document with
  | none =>
    cases h
    exact ⟨.nil _, .nil _⟩
  | some n =>
    simp only at h
    split at h
    · obtain ⟨⟨known, extra⟩, hsplit, h⟩ := Option.bind_eq_some_iff.1 h
      obtain ⟨defaults, -, h⟩ := Option.bind_eq_some_iff.1 h
      obtain ⟨agents, hagents, h⟩ := Option.bind_eq_some_iff.1 h
      obtain ⟨schemas, hschemas, h⟩ := Option.bind_eq_some_iff.1 h
      cases h
      exact ⟨declared_of_split? hsplit (by decide) hagents,
        declared_of_split? hsplit (by decide) hschemas⟩
    · cases h

/-- **What becomes of the agents and the schemas that a text declares.**  Each of them is read, but
of those with one key only the last one is kept, without a fault.  So there are as many agents as
the text declares exactly if no agent is declared twice, and likewise for the schemas. -/
theorem declared_of_ofYaml {text : String} {c : Config} (h : ofYaml text = .ok c) :
    (Declared Profile.ofNode? (writtenUnder text "agents") c.agents ∧
      (c.agents.size = (writtenUnder text "agents").length ↔
        ((writtenUnder text "agents").map Prod.fst).Nodup)) ∧
    (Declared SchemaEntry.ofNode? (writtenUnder text "schemas") c.schemas ∧
      (c.schemas.size = (writtenUnder text "schemas").length ↔
        ((writtenUnder text "schemas").map Prod.fst).Nodup)) := by
  obtain ⟨hagents, hschemas⟩ := declared_of_read? (read?_of_ofYaml h)
  exact ⟨⟨hagents, hagents.size_eq_length_iff⟩, ⟨hschemas, hschemas.size_eq_length_iff⟩⟩

/-- a text that declares an agent and a schema twice, with other contents -/
def repeatedText : String :=
  "agents:\n  claude: \x7bcommand: a\x7d\n  claude: \x7bcommand: b\x7d\n" ++
    "schemas:\n  a: \x7b\x7d\n  a: \x7bfields: [\x7bname: x\x7d]\x7d\n"

theorem declared_of_ofYaml_repeated :
    ∃ c, ofYaml repeatedText = .ok c ∧
      Declared Profile.ofNode? (writtenUnder repeatedText "agents") c.agents ∧
      c.agents.size ≠ (writtenUnder repeatedText "agents").length ∧
      Declared SchemaEntry.ofNode? (writtenUnder repeatedText "schemas") c.schemas ∧
      c.schemas.size ≠ (writtenUnder repeatedText "schemas").length := by
  have hok : (ofYaml repeatedText).toOption.isSome = true := by decide +kernel
  cases hc : ofYaml repeatedText with
  | error e =>
    rw [hc] at hok
    cases hok
  | ok c =>
    obtain ⟨⟨hagents, hagentsSize⟩, ⟨hschemas, hschemasSize⟩⟩ := declared_of_ofYaml hc
    refine ⟨c, rfl, hagents, ?_, hschemas, ?_⟩
    · exact mt hagentsSize.1 (by decide +kernel)
    · exact mt hschemasSize.1 (by decide +kernel)

/-- Not every agent and not every schema that an accepted text declares is kept. -/
theorem not_all_declarations_kept :
    (¬∀ text c, ofYaml text = .ok c → c.agents.size = (writtenUnder text "agents").length) ∧
      ¬∀ text c, ofYaml text = .ok c → c.schemas.size = (writtenUnder text "schemas").length := by
  have hsizes : (ofYaml repeatedText).toOption.map (fun c => (c.agents.size, c.schemas.size)) =
      some (1, 1) := by
    decide +kernel
  have hagents : (writtenUnder repeatedText "agents").length = 2 := by decide +kernel
  have hschemas : (writtenUnder repeatedText "schemas").length = 2 := by decide +kernel
  cases hc : ofYaml repeatedText with
  | error e =>
    rw [hc] at hsizes
    cases hsizes
  | ok c =>
    rw [hc] at hsizes
    simp only [Except.toOption, Option.map_some, Option.some.injEq, Prod.mk.injEq] at hsizes
    constructor
    · intro h
      have hsize := h repeatedText c hc
      rw [hsizes.1, hagents] at hsize
      cases hsize
    · intro h
      have hsize := h repeatedText c hc
      rw [hsizes.2, hschemas] at hsize
      cases hsize

end PromptDispatch.Config

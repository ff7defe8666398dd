import PromptDispatch.Dict.Entries

/-!
# Finite maps with sorted keys

A `Dict` is a list of entries in strictly ascending key order, so that two maps with the same
values are the same list.
-/

namespace PromptDispatch

structure Dict (α : Type) where
  entries : List (String × α)
  sorted : Entries.Sorted entries

namespace Dict

variable {α : Type}

def empty : Dict α := ⟨[], Entries.sorted_nil⟩

instance : Inhabited (Dict α) := ⟨empty⟩

def get? (d : Dict α) (k : String) : Option α := d.entries.lookup k

def contains (d : Dict α) (k : String) : Bool := (d.get? k).isSome

def insert (d : Dict α) (k : String) (v : α) : Dict α :=
  ⟨Entries.insert k v d.entries, Entries.sorted_insert k v d.sorted⟩

/-- the map of a list of entries; of a repeated key the last value stays -/
def ofList (l : List (String × α)) : Dict α := ⟨Entries.ofList l, Entries.sorted_ofList l⟩

/-- the entries of `e` put over those of `d` -/
def overlay (d e : Dict α) : Dict α := e.entries.foldl (fun acc x => acc.insert x.1 x.2) d

def keys (d : Dict α) : List String := d.entries.map Prod.fst

def values (d : Dict α) : List α := d.entries.map Prod.snd

def size (d : Dict α) : Nat := d.entries.length

def isEmpty (d : Dict α) : Bool := d.entries.isEmpty

theorem ext {d e : Dict α} (h : d.entries = e.entries) : d = e := by
  cases d
  cases e
  cases h
  rfl

instance [DecidableEq α] : DecidableEq (Dict α) := fun d e =>
  decidable_of_iff (d.entries = e.entries) ⟨ext, fun h => h ▸ rfl⟩

theorem get?_insert (d : Dict α) (k k' : String) (v : α) :
    (d.insert k v).get? k' = if k' = k then some v else d.get? k' :=
  Entries.lookup_insert k k' v d.entries

theorem get?_ofList (l : List (String × α)) (k : String) :
    (ofList l).get? k = l.reverse.lookup k :=
  Entries.lookup_ofList k l

theorem keys_sorted (d : Dict α) : d.keys.Pairwise (· < ·) := d.sorted

end Dict

end PromptDispatch

import PromptDispatch.Decimal.Binary64
import PromptDispatch.Dict.Entries

/-!
# JSON values

A number is an integer of at most 64 bits or a binary64 number.  The members of an object are
sorted by name; `Json.Canonical` says so at every level.
-/

namespace PromptDispatch

/-! ## numbers -/

/-- an integer that 64 bits hold, with a sign below zero and without one above -/
structure Whole where
  val : Int
  low : -0x8000000000000000 ≤ val
  high : val < 0x10000000000000000
  deriving DecidableEq, Repr

namespace Whole

def ofInt? (n : Int) : Option Whole :=
  if h : -0x8000000000000000 ≤ n ∧ n < 0x10000000000000000 then some ⟨n, h.1, h.2⟩ else none

theorem ofInt?_val (w : Whole) : ofInt? w.val = some w := by
  rw [ofInt?, dif_pos ⟨w.low, w.high⟩]

instance : Inhabited Whole := ⟨⟨0, by decide, by decide⟩⟩

/-- the digits of an integer, after its sign -/
def text (w : Whole) : List Char :=
  (if w.val < 0 then ['-'] else []) ++ Nat.toDigits 10 w.val.natAbs

end Whole

inductive Number where
  | int (n : Whole)
  | float (x : Binary64)
  deriving DecidableEq, Repr

/-! ## values -/

inductive Json where
  | null
  | bool (b : Bool)
  | num (n : Number)
  | str (s : String)
  | arr (items : List Json)
  | obj (members : List (String × Json))
  deriving Repr, Inhabited

namespace Json

mutual
def decEq : (v w : Json) → Decidable (v = w)
  | .null, .null => isTrue rfl
  | .bool a, .bool b => decidable_of_iff (a = b) (by simp)
  | .num a, .num b => decidable_of_iff (a = b) (by simp)
  | .str a, .str b => decidable_of_iff (a = b) (by simp)
  | .arr a, .arr b =>
    have := decEqItems a b
    decidable_of_iff (a = b) (by simp)
  | .obj a, .obj b =>
    have := decEqMembers a b
    decidable_of_iff (a = b) (by simp)
  | .null, .bool _ | .null, .num _ | .null, .str _ | .null, .arr _ | .null, .obj _
  | .bool _, .null | .bool _, .num _ | .bool _, .str _ | .bool _, .arr _ | .bool _, .obj _
  | .num _, .null | .num _, .bool _ | .num _, .str _ | .num _, .arr _ | .num _, .obj _
  | .str _, .null | .str _, .bool _ | .str _, .num _ | .str _, .arr _ | .str _, .obj _
  | .arr _, .null | .arr _, .bool _ | .arr _, .num _ | .arr _, .str _ | .arr _, .obj _
  | .obj _, .null | .obj _, .bool _ | .obj _, .num _ | .obj _, .str _ | .obj _, .arr _ =>
    isFalse (by simp)

def decEqItems : (a b : List Json) → Decidable (a = b)
  | [], [] => isTrue rfl
  | [], _ :: _ | _ :: _, [] => isFalse (by simp)
  | v :: a, w :: b =>
    have := decEq v w
    have := decEqItems a b
    decidable_of_iff (v = w ∧ a = b) (by simp)

def decEqMembers : (a b : List (String × Json)) → Decidable (a = b)
  | [], [] => isTrue rfl
  | [], _ :: _ | _ :: _, [] => isFalse (by simp)
  | (k, v) :: a, (l, w) :: b =>
    have := decEq v w
    have := decEqMembers a b
    decidable_of_iff ((k = l ∧ v = w) ∧ a = b) (by simp)
end

instance : DecidableEq Json := decEq

mutual
/-- names ascend strictly in every object of the value -/
def Canonical : Json → Prop
  | .arr items => CanonicalItems items
  | .obj members => Entries.Sorted members ∧ CanonicalMembers members
  | _ => True

def CanonicalItems : List Json → Prop
  | [] => True
  | v :: r => v.Canonical ∧ CanonicalItems r

def CanonicalMembers : List (String × Json) → Prop
  | [] => True
  | (_, v) :: r => v.Canonical ∧ CanonicalMembers r
end

/-! ## kinds -/

/-- the kind of a value, in the words of a schema -/
def kind : Json → String
  | .null => "null"
  | .bool _ => "boolean"
  | .num (.float _) => "number"
  | .num (.int _) => "integer"
  | .str _ => "string"
  | .arr _ => "array"
  | .obj _ => "object"

def isObject : Json → Bool
  | .obj _ => true
  | _ => false

/-- the members of an object, none for another value -/
def members? : Json → Option (List (String × Json))
  | .obj members => some members
  | _ => none

end Json

end PromptDispatch

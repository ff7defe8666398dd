import PromptDispatch.Json.Value

/-!
# YAML values

A value is what is left of a node once its scalars have types: the style, the tag and the spelling
are gone.  `Value.sameAs` is the equality under which a mapping has each key once; it does not look
at the order of entries, and to it the two zeros are one number.
-/

namespace PromptDispatch.Yaml

/-- a value with its type; a mapping keeps the order of its entries -/
inductive Value where
  | null
  | bool (b : Bool)
  | num (n : Number)
  | str (s : String)
  | seq (items : List Value)
  | map (entries : List (Value × Value))
  deriving Repr, Inhabited

namespace Value

/-! ## keys -/

def sameNumber : Number → Number → Bool
  | .int a, .int b => a = b
  | .float x, .float y => (x.isNaN && y.isNaN) || (x.isZero && y.isZero) || x = y
  | _, _ => false

mutual
def sameAs : Value → Value → Bool
  | .null, .null => true
  | .bool a, .bool b => a = b
  | .num a, .num b => sameNumber a b
  | .str a, .str b => a = b
  | .seq a, .seq b => sameItems a b
  | .map a, .map b => a.length = b.length && allAmong a b
  | _, _ => false

def sameItems : List Value → List Value → Bool
  | [], [] => true
  | v :: a, w :: b => sameAs v w && sameItems a b
  | _, _ => false

/-- every entry is among the others -/
def allAmong : List (Value × Value) → List (Value × Value) → Bool
  | [], _ => true
  | (k, v) :: a, b => b.any (fun e => sameAs k e.1 && sameAs v e.2) && allAmong a b
end

/-- no key is the same as another -/
def distinctKeys : List (Value × Value) → Bool
  | [] => true
  | (k, _) :: r => !(r.any fun e => sameAs k e.1) && distinctKeys r

end Value

end PromptDispatch.Yaml

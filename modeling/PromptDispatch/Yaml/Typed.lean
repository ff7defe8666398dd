import PromptDispatch.Yaml.Scalar

/-!
# Typed readings of a node

What a node says depends on what is asked of it.  Asked for a text, a scalar gives its characters,
whatever their type would be; asked for an optional one, it gives none where it is null; and where
nothing is asked, `Value.ofNode?` gives the value with its type.
-/

namespace PromptDispatch.Yaml

/-! ## values -/

namespace Value

/-- a tag of the document's own -/
def ownTag (tag : Option String) : Bool := (tag.map fun t => t.startsWith "!").getD false

mutual
/-- the value of a node; none if a key is repeated, or if a tag or an integer cannot be kept -/
def ofNode? : Node → Option Value
  | .scalar text style tag => Scalar.value? text style tag
  | .sequence items tag => if ownTag tag then none else (ofItems? items).map .seq
  | .mapping entries tag =>
    if ownTag tag then none
    else (ofEntries? entries).bind fun es => if distinctKeys es then some (.map es) else none

def ofItems? : List Node → Option (List Value)
  | [] => some []
  | n :: r => (ofNode? n).bind fun v => (ofItems? r).map (v :: ·)

def ofEntries? : List (Node × Node) → Option (List (Value × Value))
  | [] => some []
  | (k, n) :: r =>
    (ofNode? k).bind fun k => (ofNode? n).bind fun v => (ofEntries? r).map ((k, v) :: ·)
end

end Value

namespace Node

/-! ## scalars -/

def text? : Node → Option String
  | .scalar text _ _ => some text
  | _ => none

/-- a plain scalar, or a literal one that a tag gives the type -/
def plainText? (type : String) : Node → Option String
  | .scalar text .plain _ => some text
  | .scalar text .literal tag => if tag = some (Scalar.coreTag type) then some text else none
  | _ => none

/-- an integer that 64 bits hold without a sign -/
def unsigned? (n : Node) : Option UInt64 :=
  (n.plainText? "int").bind fun s =>
    (Scalar.unsigned? s.toList).bind fun n => if n < UInt64.size then some (UInt64.ofNat n) else none

def bool? (n : Node) : Option Bool := (n.plainText? "bool").bind Scalar.bool?

/-- whether a node stands for a value that is left out; none where its tag says null and it is not -/
def isNull? : Node → Option Bool
  | .scalar text .plain none => some (text = "" || Scalar.isNull text)
  | .scalar text .plain (some tag) =>
    if tag = Scalar.coreTag "null" then if Scalar.isNull text then some true else none
    else some false
  | _ => some false

/-- an optional value: none where it is null -/
def optional? {α : Type} (read : Node → Option α) (n : Node) : Option (Option α) :=
  n.isNull?.bind fun absent => if absent then some none else (read n).map some

/-! ## collections -/

/-- an empty plain scalar, which stands for an empty collection -/
def isBare : Node → Bool
  | .scalar "" .plain _ => true
  | _ => false

def items? : Node → Option (List Node)
  | .sequence items _ => some items
  | n => if n.isBare then some [] else none

def entries? : Node → Option (List (Node × Node))
  | .mapping entries _ => some entries
  | n => if n.isBare then some [] else none

/-- the entries of a mapping whose keys are scalars -/
def members? (n : Node) : Option (List (String × Node)) :=
  n.entries?.bind fun es => es.mapM fun e => e.1.text?.map fun k => (k, e.2)

end Node

end PromptDispatch.Yaml

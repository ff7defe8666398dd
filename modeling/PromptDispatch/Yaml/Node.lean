import PromptDispatch.Yaml.Token

/-!
# Nodes of a YAML document

A node is a scalar with its style, a sequence or a mapping, each perhaps with a tag.
-/

namespace PromptDispatch.Yaml

inductive Node where
  | scalar (text : String) (style : ScalarStyle) (tag : Option String)
  | sequence (items : List Node) (tag : Option String)
  | mapping (entries : List (Node × Node)) (tag : Option String)
  deriving Repr, Inhabited

namespace Node

/-- a plain scalar without characters -/
def empty : Node := .scalar "" .plain none

mutual
/-- how deep sequences and mappings are nested -/
def depth : Node → Nat
  | .scalar _ _ _ => 0
  | .sequence items _ => depthItems items + 1
  | .mapping entries _ => depthEntries entries + 1

def depthItems : List Node → Nat
  | [] => 0
  | n :: r => max n.depth (depthItems r)

def depthEntries : List (Node × Node) → Nat
  | [] => 0
  | (k, v) :: r => max (max k.depth v.depth) (depthEntries r)
end

end Node

end PromptDispatch.Yaml

import PromptDispatch.Dict
import PromptDispatch.Text.Utf8

/-!
# Environments of child processes

A child has its parent's variables with those of the call put over them.  Variables of the parent
need not be text: `snapshot` keeps those that are, and `childEnvironment` puts the merged list over
all that the parent has.
-/

namespace PromptDispatch

/-- the overrides put over a list of variables, sorted by name -/
def mergeEnvironment (base : List (String × String)) (overrides : Dict String) :
    List (String × String) :=
  ((Dict.ofList base).overlay overrides).entries

/-- a variable of the parent, as bytes -/
structure RawVariable where
  name : List UInt8
  value : List UInt8
  deriving DecidableEq, Repr

namespace RawVariable

/-- the name and the value of a variable that is text -/
def text? (v : RawVariable) : Option (String × String) :=
  (Text.decode? v.name).bind fun name =>
    (Text.decode? v.value).map fun value => (String.ofList name, String.ofList value)

def ofText (v : String × String) : RawVariable := ⟨Text.encode v.1.toList, Text.encode v.2.toList⟩

end RawVariable

/-- the variables that are text -/
def snapshot (ambient : List RawVariable) : List (String × String) :=
  ambient.filterMap RawVariable.text?

/-- the variables to set for a child, or none to let it inherit -/
def processEnvironment (ambient : List RawVariable) (overrides : Dict String) :
    Option (List (String × String)) :=
  if overrides.isEmpty then none else some (mergeEnvironment (snapshot ambient) overrides)

/-- sets one variable among others -/
def setVariable (vars : List RawVariable) (v : RawVariable) : List RawVariable :=
  if vars.any (·.name = v.name) then vars.map fun w => if w.name = v.name then v else w
  else vars ++ [v]

/-- the variables of a child -/
def childEnvironment (ambient : List RawVariable) (env : Option (List (String × String))) :
    List RawVariable :=
  match env with
  | none => ambient
  | some vars => vars.foldl (fun acc v => setVariable acc (.ofText v)) ambient

end PromptDispatch

import PromptDispatch.Machine
import PromptDispatch.Program.Outside

/-!
# The program on a machine
-/

namespace PromptDispatch.Machine

/-- the watch of a context with a timeout that nobody cancels -/
def Watch.ofTimeout (d : Timeout) : Watch :=
  { context := (Context.background ⟨0⟩).timeout default d }

/-- what the program meets on a machine with an input -/
def outside (m : Machine) (input : List UInt8) : Program.Outside where
  pathExists := m.files.pathExists
  readFile path := (m.files.readText path).map String.ofList
  input :=
    match Text.decode? input with
    | some s => .ok (String.ofList s)
    | none => .error .invalidUtf8
  vars := m.vars
  surroundings d := m.surroundings (.ofTimeout d)

/-- the machine with one more file or directory in the directory of commands -/
def withEntry (m : Machine) (name : String) (e : Entry) : Machine :=
  let path := m.files.current ++ [name]
  { m with files := { m.files with entries := (path, e) :: m.files.entries } }

/-- the machine with one more variable -/
def withVariable (m : Machine) (v : String × String) : Machine :=
  { m with vars := setVariable m.vars (.ofText v) }

end PromptDispatch.Machine

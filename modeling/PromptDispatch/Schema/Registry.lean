import PromptDispatch.Dict
import PromptDispatch.Schema.Descriptor

/-!
# Registries of schemas

Descriptors are registered on a builder, each under its own label and once; sealing the builder
gives a registry, which is only read.  A `Slot` holds one registry for the whole process and is
filled once.
-/

namespace PromptDispatch

/-! ## building -/

structure RegistryBuilder where
  schemas : Dict Descriptor := .empty

namespace RegistryBuilder

def empty : RegistryBuilder := {}

instance : Inhabited RegistryBuilder := ⟨empty⟩

/-- puts a descriptor under its label, if it is well formed and the label is free; the builder as it
is then, and the answer -/
def enter (b : RegistryBuilder) (d : Descriptor) : RegistryBuilder × Except SchemaFault Unit :=
  match d.check with
  | .error e => (b, .error e)
  | .ok () =>
    if b.schemas.contains d.label then (b, .error (.alreadyRegistered d.label))
    else ({ b with schemas := b.schemas.insert d.label d }, .ok ())

/-- the builder to go on with, if the descriptor was entered -/
def register (b : RegistryBuilder) (d : Descriptor) : Except SchemaFault RegistryBuilder :=
  (b.enter d).2.map fun _ => (b.enter d).1

/-- enters in turn up to the first failure; the builder as it is then, and that failure -/
def registerAll (b : RegistryBuilder) : List Descriptor → RegistryBuilder × Except SchemaFault Unit
  | [] => (b, .ok ())
  | d :: r =>
    match b.enter d with
    | (b, .error e) => (b, .error e)
    | (b, .ok ()) => b.registerAll r

end RegistryBuilder

/-! ## reading -/

structure Registry where
  schemas : Dict Descriptor := .empty

namespace Registry

instance : Inhabited Registry := ⟨{}⟩

def lookup (r : Registry) (label : String) : Option Descriptor := r.schemas.get? label

def contains (r : Registry) (label : String) : Bool := r.schemas.contains label

/-- the labels in ascending order -/
def labels (r : Registry) : List String := r.schemas.keys

/-- the descriptors in the order of their labels -/
def descriptors (r : Registry) : List Descriptor := r.schemas.values

def size (r : Registry) : Nat := r.schemas.size

def isEmpty (r : Registry) : Bool := r.schemas.isEmpty

/-- the valid object in an agent's output, by the descriptor under a label -/
def validate (r : Registry) (label : String) (raw : List Char) : Except Failure Json :=
  match r.lookup label with
  | none => .error (.schema (.notRegistered label))
  | some d => d.validateOutput raw

end Registry

def RegistryBuilder.build (b : RegistryBuilder) : Registry := { schemas := b.schemas }

/-- the registry of a list of descriptors, if all of them can be registered -/
def Registry.ofDescriptors (ds : List Descriptor) : Except SchemaFault Registry :=
  match RegistryBuilder.empty.registerAll ds with
  | (b, .ok ()) => .ok b.build
  | (_, .error e) => .error e

/-! ## the registry of the process -/

/-- the place of the one registry of a process -/
structure Slot where
  installed : Option Registry := none

namespace Slot

def empty : Slot := {}

/-- fills an empty slot; the slot as it is then, and what is read back from it -/
def install (s : Slot) (r : Registry) : Slot × Except SchemaFault Registry :=
  if s.installed.isSome then (s, .error .alreadyInstalled)
  else
    let s := { s with installed := some r }
    match s.installed with
    | some r => (s, .ok r)
    | none => (s, .error (.other "schema registry install failed"))

/-- registers descriptors on a new builder and installs what it is sealed to -/
def fill (s : Slot) (ds : List Descriptor) : Slot × Except SchemaFault Registry :=
  match Registry.ofDescriptors ds with
  | .error e => (s, .error e)
  | .ok r => s.install r

/-- the slot to go on with, if it was filled -/
def installAll (s : Slot) (ds : List Descriptor) : Except SchemaFault Slot :=
  (s.fill ds).2.map fun _ => (s.fill ds).1

def lookup (s : Slot) (label : String) : Option Descriptor :=
  s.installed.bind (·.lookup label)

end Slot

end PromptDispatch

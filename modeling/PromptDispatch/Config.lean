import PromptDispatch.Dict
import PromptDispatch.Schema.FieldSpec
import PromptDispatch.Yaml.Value

/-!
# Configurations

A configuration has default settings, agent profiles by name and schemas by label.  What it declares
besides is kept as it is, at the level where it stands.
-/

namespace PromptDispatch

/-- the entries that are not declared, by their key -/
abbrev Extra := Dict Yaml.Value

namespace Config

/-- the settings of every invocation that has none of its own -/
structure Defaults where
  timeoutSeconds : UInt64 := 600
  extra : Extra := .empty

structure Profile where
  /-- the built-in agent that the profile stands for; its own name where there is none -/
  kind : Option String := none
  /-- the command line; the binary of the kind where there is none -/
  command : Option String := none
  timeoutSeconds : Option UInt64 := none
  environment : Dict String := .empty
  extra : Extra := .empty

structure SchemaEntry where
  fields : List FieldSpec := []
  extra : Extra := .empty

end Config

structure Config where
  defaults : Config.Defaults := {}
  agents : Dict Config.Profile := .empty
  schemas : Dict Config.SchemaEntry := .empty
  extra : Extra := .empty

instance : Inhabited Config := ⟨{}⟩

end PromptDispatch

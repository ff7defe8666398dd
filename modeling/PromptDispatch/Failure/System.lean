/-!
# Failures of the operating system
-/

namespace PromptDispatch

/-- why the operating system refused something -/
inductive SystemFault where
  | notFound
  | permissionDenied
  | notDirectory
  | isDirectory
  /-- a program, an argument or a variable has a NUL in it -/
  | nulByte
  | invalidUtf8
  /-- a reason in other words -/
  | other (text : String)
  deriving DecidableEq, Repr

namespace SystemFault

/-- the words for a fault, without its number -/
def reason : SystemFault → String
  | .notFound => "No such file or directory"
  | .permissionDenied => "Permission denied"
  | .notDirectory => "Not a directory"
  | .isDirectory => "Is a directory"
  | .nulByte => "nul byte found in provided data"
  | .invalidUtf8 => "stream did not contain valid UTF-8"
  | .other text => text

/-- the number of a fault that comes from the operating system -/
def number? : SystemFault → Option Nat
  | .notFound => some 2
  | .permissionDenied => some 13
  | .notDirectory => some 20
  | .isDirectory => some 21
  | _ => none

def message (f : SystemFault) : String :=
  match f.number? with
  | some n => s!"{f.reason} (os error {n})"
  | none => f.reason

end SystemFault

end PromptDispatch

import PromptDispatch.Arguments.Request
import PromptDispatch.Machine.Outside
import PromptDispatch.Program

/-!
# Command line

Reads the files that a request names and the input, and writes the reply to the command line.
Commands run on a `Machine` that has these files.
-/

namespace PromptDispatch.Main

/-- the files that a request can read -/
def fileNames (q : Request) : List String :=
  let document :=
    match q.action with
    | .validateSchema _ file | .decodeStream file => file.toList
    | _ => []
  q.config.getD Program.configFileName :: document

def systemFault : IO.Error → SystemFault
  | .noFileOrDirectory _ _ _ => .notFound
  | .permissionDenied _ _ _ => .permissionDenied
  | .inappropriateType _ _ _ => .isDirectory
  | e => .other (toString e)

def readFile (name : String) : IO (Except SystemFault (List UInt8)) := do
  try
    return .ok (← IO.FS.readBinFile name).toList
  catch e => return .error (systemFault e)

partial def readInput (h : IO.FS.Stream) (before : ByteArray) : IO ByteArray := do
  let block ← h.read 65536
  if block.isEmpty then return before else readInput h (before ++ block)

/-- a machine with the variables that the program looks at -/
def machine : IO Machine := do
  let mut m : Machine := {}
  for name in "PATH" :: Program.LogFilter.variableNames do
    if let some value ← IO.getEnv name then m := m.withVariable (name, value)
  return m

/-- what the program meets, with the files that have been read -/
def outside (m : Machine) (files : List (String × Except SystemFault (List UInt8)))
    (input : List UInt8) : Program.Outside :=
  let inner := m.outside input
  { inner with
    pathExists := fun path =>
      match files.lookup path with
      | some content => !(content matches .error .notFound)
      | none => inner.pathExists path
    readFile := fun path =>
      match files.lookup path with
      | some content =>
        content.bind fun bytes =>
          match Text.decode? bytes with
          | some s => .ok (String.ofList s)
          | none => .error .invalidUtf8
      | none => inner.readFile path }

/-- what a command line meets; one that is not carried out asks for nothing -/
def outsideOf (args : List String) : IO Program.Outside := do
  match Request.ofArguments args with
  | .error _ => return outside {} [] []
  | .ok q =>
    let files ← (fileNames q).mapM fun name => return (name, ← readFile name)
    let input ← readInput (← IO.getStdin) .empty
    return outside (← machine) files input.toList

def tell (r : Program.Reply) : IO Unit := do
  IO.eprint r.said
  IO.print r.written

def runArguments (args : List String) : IO UInt32 := do
  let o ← outsideOf args
  tell (Program.reply o args)
  return UInt32.ofNat (Program.exitCode o args)

end PromptDispatch.Main

def main (args : List String) : IO UInt32 := PromptDispatch.Main.runArguments args

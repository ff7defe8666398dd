import PromptDispatch.Machine.Shell.Reader
import PromptDispatch.Machine.Tool
import PromptDispatch.Process.Status

/-!
# The state of a shell

A shell has variables, arguments, functions and traps; its descriptors lead to buffers, files or to
nothing.  What it writes, the files and the time stay when a subshell ends.
-/

namespace PromptDispatch.Machine.Shell

/-- where a descriptor leads -/
inductive Target where
  | nothing
  | buffer (number : Nat)
  | file (path : String)
  deriving DecidableEq, Repr

structure Variable where
  value : String
  exported : Bool := false

/-- why commands do not go on with the next one -/
inductive Flow where
  | exit
  | killed (signal : Nat)
  | breakOut (levels : Nat)
  | goOn (levels : Nat)
  | returned
  /-- it would go on for ever -/
  | stuck
  deriving DecidableEq, Repr

structure State where
  name : String := "sh"
  args : List String := []
  vars : List (String × Variable) := []
  functions : List (String × Command) := []
  /-- what is done for a signal, or at the exit -/
  traps : List (String × String) := []
  descriptors : List (Nat × Target) := [(0, .nothing), (1, .buffer 0), (2, .buffer 0)]
  buffers : Array (List UInt8) := #[[]]
  files : Files := .standard
  /-- milliseconds since the start -/
  time : Nat := 0
  status : Nat := 0
  line : Nat := 1
  exitOnError : Bool := false
  /-- inside of a condition -/
  tested : Bool := false
  /-- commands in the background that take time -/
  jobs : List Command := []

/-- an action that may leave the flow of commands; what it has done stays done -/
abbrev Act := ExceptT Flow (StateM State)

/-! ## variables -/

namespace State

def valueOf? (s : State) (name : String) : Option String :=
  (s.vars.lookup name).map (·.value)

def setVariable (s : State) (name value : String) : State :=
  let v := (s.vars.lookup name).getD { value }
  { s with
    vars :=
      if (s.vars.lookup name).isSome then
        s.vars.map fun e => if e.1 = name then (name, { v with value }) else e
      else s.vars ++ [(name, { v with value })] }

def markExported (s : State) (name : String) : State :=
  let s := if (s.vars.lookup name).isSome then s else s.setVariable name ""
  { s with vars := s.vars.map fun e => if e.1 = name then (name, { e.2 with exported := true })
    else e }

/-- the variables that commands get -/
def exported (s : State) : List (String × String) :=
  s.vars.filterMap fun e => if e.2.exported then some (e.1, e.2.value) else none

def ofEnvironment (s : State) (vars : List (String × String)) : State :=
  { s with vars := vars.map fun v => (v.1, { value := v.2, exported := true }) }

/-- the number of the shell's process -/
def pid : String := "1000"

/-- the value of a parameter -/
def parameter? (s : State) (name : String) : Option String :=
  match name with
  | "#" => some (toString s.args.length)
  | "?" => some (toString s.status)
  | "$" => some pid
  | "!" => some ""
  | "-" => some ""
  | "@" | "*" => if s.args.isEmpty then none else some (" ".intercalate s.args)
  | "0" => some s.name
  | _ =>
    match name.toNat? with
    | some n => s.args[n - 1]?
    | none => s.valueOf? name

end State

/-! ## descriptors -/

namespace Act

def setStatus (n : Nat) : Act Unit := modify fun s => { s with status := n }

def newBuffer (content : List UInt8) : Act Nat := do
  let s ← get
  set { s with buffers := s.buffers.push content }
  return s.buffers.size

def target (descriptor : Nat) : Act (Option Target) := return (← get).descriptors.lookup descriptor

def write (descriptor : Nat) (bytes : List UInt8) : Act Unit := do
  match ← target descriptor with
  | some (.buffer n) =>
    modify fun s => { s with buffers := s.buffers.modify n (· ++ bytes) }
  | some (.file path) =>
    modify fun s =>
      let before := (s.files.read path).toOption.getD []
      { s with files := (s.files.write path (before ++ bytes)).toOption.getD s.files }
  | _ => return

def print (text : String) : Act Unit := write 1 (Text.encode text.toList)

def printError (text : String) : Act Unit := write 2 (Text.encode text.toList)

/-- a complaint of the shell itself -/
def complain (text : String) : Act Unit := do
  let s ← get
  printError s!"{s.name}: {s.line}: {text}\n"

/-- all the input that is left -/
def takeInput : Act (List UInt8) := do
  match ← target 0 with
  | some (.buffer n) =>
    let s ← get
    set { s with buffers := s.buffers.modify n fun _ => [] }
    return (s.buffers[n]?).getD []
  | _ => return []

/-- a line of the input, and whether it had an end -/
def takeLine : Act (List UInt8 × Bool) := do
  match ← target 0 with
  | some (.buffer n) =>
    let s ← get
    let content := (s.buffers[n]?).getD []
    let line := content.takeWhile (· ≠ 10)
    set { s with buffers := s.buffers.modify n fun _ => content.drop (line.length + 1) }
    return (line, line.length < content.length)
  | _ => return ([], false)

/-- carries out an action and says how it left the flow -/
def caught (a : Act Unit) : Act (Option Flow) :=
  tryCatch (do a; return none) fun f => return some f

/-- with other descriptors for a while -/
def withDescriptors (ds : List (Nat × Target)) (a : Act Unit) : Act Unit := do
  let before := (← get).descriptors
  modify fun s => { s with descriptors := ds ++ s.descriptors }
  let flow ← caught a
  modify fun s => { s with descriptors := before }
  match flow with
  | none => return
  | some f => throw f

/-- what a subshell leaves behind: what it wrote, the files, the time and its status -/
def inSubshell (a : Act Unit) : Act Unit := do
  let before ← get
  let flow ← caught a
  modify fun s =>
    { before with buffers := s.buffers, files := s.files, time := s.time, status := s.status }
  match flow with
  | some (.killed n) => throw (.killed n)
  | some .stuck => throw .stuck
  | _ => return

/-- with the mark of a condition -/
def inCondition (a : Act Unit) : Act Unit := do
  let before := (← get).tested
  modify fun s => { s with tested := true }
  let flow ← caught a
  modify fun s => { s with tested := before }
  match flow with
  | none => return
  | some f => throw f

/-- what is written to the output meanwhile -/
def collect (a : Act Unit) : Act (List UInt8) := do
  let n ← newBuffer []
  inSubshell (withDescriptors [(1, .buffer n)] a)
  return ((← get).buffers[n]?).getD []

/-- what a program has done -/
def carryOut (run : ToolRun) : Act Unit := do
  for w in run.writes do
    write (if w.1 then 2 else 1) w.2
  modify fun s => { s with status := run.code, time := s.time + run.time }

end Act

/-! ## signals -/

/-- the number of a signal by its name or number -/
def signalNumber? (word : String) : Option Nat :=
  match word.toNat? with
  | some n => if n < 65 then some n else none
  | none =>
    let name := if word.startsWith "SIG" then (word.drop 3).toString else word
    (WaitStatus.signalNames.findIdx? (· = name)).map (· + 1)

/-- the name of a signal or of the exit, by which traps are kept -/
def trapName (word : String) : String :=
  if word = "0" ∨ word = "EXIT" then "EXIT"
  else
    match signalNumber? word with
    | some n => (WaitStatus.signalNames[n - 1]?).getD word
    | none => word

/-- the signals that do nothing where there is no trap -/
def harmlessSignals : List Nat := [0, 17, 18, 23, 28]

/-- the signals that stop a process -/
def stoppingSignals : List Nat := [19, 20, 21, 22]

/-! ## fields -/

/-- a piece of a word that is being expanded -/
inductive Piece where
  | fixed (s : List Char)
  /-- cut at blanks -/
  | soft (s : List Char)
  /-- the end of a field -/
  | gap
  deriving DecidableEq, Repr

/-- fields that have been closed, the last one first, and the open one -/
structure Fields where
  closed : List (List Char) := []
  opened : Option (List Char) := none

namespace Fields

def close (f : Fields) : Fields :=
  match f.opened with
  | none => f
  | some s => { closed := s :: f.closed, opened := none }

def add (f : Fields) (s : List Char) : Fields := { f with opened := some (f.opened.getD [] ++ s) }

def addPiece (separators : List Char) (f : Fields) : Piece → Fields
  | .fixed s => f.add s
  | .gap => f.close
  | .soft s => s.foldl (fun f c => if c ∈ separators then f.close else f.add [c]) f

def ofPieces (separators : List Char) (ps : List Piece) : List String :=
  ((ps.foldl (addPiece separators) {}).close.closed.reverse).map String.ofList

end Fields

/-- pieces as one text -/
def joinPieces (ps : List Piece) : String :=
  String.ofList (ps.flatMap fun p =>
    match p with
    | .fixed s | .soft s => s
    | .gap => [' '])

/-! ## patterns -/

/-- a text matches a pattern with `*`, `?` and sets in brackets -/
def glob : Nat → List Char → List Char → Bool
  | 0, _, _ => false
  | _, [], s => s.isEmpty
  | fuel + 1, '*' :: p, s =>
    glob fuel p s ||
      match s with
      | [] => false
      | _ :: r => glob fuel ('*' :: p) r
  | fuel + 1, '?' :: p, _ :: r => glob fuel p r
  | _, '?' :: _, [] => false
  | fuel + 1, '[' :: p, s =>
    let (negated, q) :=
      match p with
      | '!' :: q => (true, q)
      | _ => (false, p)
    let (ranges, rest) := Pattern.ranges q.length true q
    match s with
    | [] => false
    | c :: r => (Atom.set negated ranges).admits c && glob fuel rest r
  | fuel + 1, '\\' :: x :: p, c :: r => x = c && glob fuel p r
  | fuel + 1, x :: p, c :: r => x = c && glob fuel p r
  | _, _ :: _, [] => false

def globMatches (pattern : String) (s : List Char) : Bool :=
  glob (pattern.length + s.length + 2) pattern.toList s

/-- the ways to cut a text in two, the first part growing -/
def cuts (s : List Char) : List (List Char × List Char) :=
  (List.range (s.length + 1)).map fun n => (s.take n, s.drop n)

def dropStart (longest : Bool) (pattern : String) (s : List Char) : List Char :=
  let cs := if longest then (cuts s).reverse else cuts s
  ((cs.find? fun c => globMatches pattern c.1).map (·.2)).getD s

def dropEnd (longest : Bool) (pattern : String) (s : List Char) : List Char :=
  let cs := if longest then cuts s else (cuts s).reverse
  ((cs.find? fun c => globMatches pattern c.2).map (·.1)).getD s

end PromptDispatch.Machine.Shell

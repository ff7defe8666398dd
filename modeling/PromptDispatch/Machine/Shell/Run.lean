import PromptDispatch.Machine.Shell.Condition

/-!
# Carrying out scripts

`runProgram` carries out one program with its arguments; a shell among them reads its script and
carries it out line by line.  The fuel bounds how long a script goes on: one that uses it up is taken
to go on for ever.
-/

namespace PromptDispatch.Machine.Shell

open Act

/-! ## commands of the shell itself -/

/-- the names of the commands that are carried out without a program -/
def builtinNames : List String :=
  [":", "true", "false", "echo", "printf", "exit", "export", "unset", "set", "shift", "read", "cd",
    "pwd", "test", "[", "kill", "trap", "wait", "return", "break", "continue", "eval", "exec",
    "local", "readonly", "umask", "command", "type"]

def echoWords (args : List String) : ToolRun :=
  let (bare, words) :=
    match args with
    | "-n" :: r => (true, r)
    | _ => (false, args)
  let (b, stopped) :=
    EscapeDialect.bytes { leadingZero := true, stops := true } (" ".intercalate words).toList
  { writes := [(false, if bare || stopped then b else b ++ [10])] }

def printfWords (args : List String) : Act Unit := do
  match args with
  | [] =>
    complain "printf: usage: printf format [arg ...]"
    setStatus 2
  | format :: args =>
    let p := Printf.run {} format args
    write 1 p.bytes
    for a in p.wrong do
      complain s!"printf: {a}: expected numeric value"
    setStatus (if p.wrong.isEmpty then 0 else 1)

/-- the words of `test`, without the bracket that ends them -/
def condition (name : String) (args : List String) : Act Unit := do
  let s ← get
  let words? :=
    if name = "[" then if args.getLast? = some "]" then some args.dropLast else none
    else some args
  match words? with
  | none =>
    complain "[: missing ]"
    setStatus 2
  | some ws =>
    match Condition.value s.files (fun _ => false) (ws.length + 1) ws with
    | .ok b => setStatus (if b then 0 else 1)
    | .error e =>
      complain s!"{name}: {e.message}"
      setStatus 2

/-- reads a line into variables; the last one takes what is left -/
def readVariables (args : List String) : Act Unit := do
  let names := args.filter fun a => !a.startsWith "-"
  let (line, ended) ← takeLine
  let blank (c : Char) := c = ' ' || c = '\t'
  let rec assign : List String → List Char → Act Unit
    | [], _ => return
    | [n], s => do
      let value := ((s.dropWhile blank).reverse.dropWhile blank).reverse
      modify (·.setVariable n (String.ofList value))
    | n :: ns, s => do
      let s := s.dropWhile blank
      let word := s.takeWhile fun c => !blank c
      modify (·.setVariable n (String.ofList word))
      assign ns (s.drop word.length)
  assign names (Text.decodeLossy line)
  setStatus (if ended then 0 else 1)

/-- `NAME=value` words -/
def splitAssignment (w : String) : String × Option String :=
  let name := w.toList.takeWhile (· ≠ '=')
  (String.ofList name,
    if name.length < w.length then some (String.ofList (w.toList.drop (name.length + 1))) else none)

def exportNames (args : List String) : Act Unit := do
  for a in args do
    let (name, value) := splitAssignment a
    if let some v := value then modify (·.setVariable name v)
    modify (·.markExported name)
  setStatus 0

def setOptions : List String → Act Unit
  | [] => return
  | "--" :: r => modify fun s => { s with args := r }
  | "-e" :: r => do
    modify fun s => { s with exitOnError := true }
    setOptions r
  | "+e" :: r => do
    modify fun s => { s with exitOnError := false }
    setOptions r
  | w :: r => do
    if w.startsWith "-" || w.startsWith "+" then setOptions r
    else modify fun s => { s with args := w :: r }

def setTrap (args : List String) : Act Unit := do
  match args.dropWhile (· = "--") with
  | action :: signals =>
    for s in signals do
      let name := trapName s
      modify fun st =>
        let others := st.traps.filter (·.1 ≠ name)
        { st with traps := if action = "-" then others else (name, action) :: others }
  | [] => return
  setStatus 0

/-- the signal and the processes of `kill` -/
def killWords : List String → Option Nat × List String
  | "-s" :: n :: r => (signalNumber? n, r)
  | "-n" :: n :: r => (signalNumber? n, r)
  | "--" :: r => (some 15, r)
  | w :: r => if w.startsWith "-" then (signalNumber? (w.drop 1).toString, r) else (some 15, w :: r)
  | [] => (some 15, [])

def countOf (args : List String) (usual : Nat) : Nat :=
  (args.head?.bind String.toNat?).getD usual

/-! ## evaluation -/

/-- where the descriptor of a redirection leads -/
def openTarget (kind : RedirectKind) (word : String) : Act (Option Target) := do
  let s ← get
  match kind with
  | .duplicate => if word = "-" then return some .nothing else
      match word.toNat? with
      | some n => target n
      | none => return none
  | .input =>
    if word = "/dev/null" then return some .nothing
    match s.files.read word with
    | .ok content => return some (.buffer (← newBuffer content))
    | .error e =>
      let why := if e = .notFound then "No such file" else e.reason
      complain s!"cannot open {word}: {why}"
      return none
  | .output | .append =>
    if word = "/dev/null" then return some .nothing
    let before := if kind = .append then (s.files.read word).toOption.getD [] else []
    match s.files.write word before with
    | .ok files =>
      set { s with files }
      return some (.file word)
    | .error e =>
      let why := if e = .notFound then "Directory nonexistent" else e.reason
      complain s!"cannot create {word}: {why}"
      return none

mutual
/-- the pieces of a word -/
def expandParts (fuel : Nat) (ps : List Part) : Act (List Piece) :=
  match fuel with
  | 0 => throw .stuck
  | fuel + 1 =>
    match ps with
    | [] => return []
    | p :: r => do
      let first ← expandPart fuel p
      let rest ← expandParts fuel r
      return first ++ rest

def expandPart (fuel : Nat) (p : Part) : Act (List Piece) :=
  match fuel with
  | 0 => throw .stuck
  | fuel + 1 =>
    let piece (quoted : Bool) (s : List Char) : Piece := if quoted then .fixed s else .soft s
    match p with
    | .text _ s => return [.fixed s.toList]
    | .parameter quoted name op word => do
      let s ← get
      match name, op with
      | "@", .value =>
        return (s.args.map fun a => [piece quoted a.toList]).intersperse [.gap] |>.flatten
      | _, _ =>
        let value ← expandParameter fuel name op word
        match value with
        | .inl text => return [piece quoted text.toList]
        | .inr pieces => return if quoted then [.fixed (joinPieces pieces).toList] else pieces
    | .output quoted body => do
      let bytes ← collect (run fuel body)
      let s := (Text.decodeLossy (bytes.filter (· ≠ 0))).reverse.dropWhile (· = '\n')
      return [piece quoted s.reverse]
    | .arithmetic quoted parts => do
      let text := joinPieces (← expandParts fuel parts)
      let s ← get
      let look (name : String) : Int := ((s.valueOf? name).bind Conversion.integer?).getD 0
      match Arithmetic.value? look text.toList with
      | some n => return [piece quoted (toString n).toList]
      | none =>
        complain s!"arithmetic expression: expecting primary: \"{text}\""
        setStatus 2
        throw .exit

/-- the value of a parameter after what is done with it: a text, or the pieces of another word -/
def expandParameter (fuel : Nat) (name : String) (op : ParameterOp) (word : List Part) :
    Act (String ⊕ List Piece) :=
  match fuel with
  | 0 => throw .stuck
  | fuel + 1 => do
    let value := (← get).parameter? name
    let isSet (orEmpty : Bool) : Bool :=
      match value with
      | none => false
      | some v => !(orEmpty && v = "")
    let text := value.getD ""
    match op with
    | .value => return .inl text
    | .length => return .inl (toString text.length)
    | .default orEmpty => if isSet orEmpty then return .inl text else return .inr (← expandParts fuel word)
    | .alternative orEmpty =>
      if isSet orEmpty then return .inr (← expandParts fuel word) else return .inl ""
    | .assign orEmpty =>
      if isSet orEmpty then return .inl text
      else
        let v := joinPieces (← expandParts fuel word)
        modify (·.setVariable name v)
        return .inl v
    | .require orEmpty =>
      if isSet orEmpty then return .inl text
      else
        let v := joinPieces (← expandParts fuel word)
        let why := if v = "" then "parameter not set" else v
        complain s!"{name}: {why}"
        setStatus 2
        throw .exit
    | .dropStart longest =>
      let p ← expandPattern fuel word
      return .inl (String.ofList (dropStart longest p text.toList))
    | .dropEnd longest =>
      let p ← expandPattern fuel word
      return .inl (String.ofList (dropEnd longest p text.toList))

/-- a pattern, in which what is quoted stands for itself -/
def expandPattern (fuel : Nat) (ps : List Part) : Act String :=
  match fuel with
  | 0 => throw .stuck
  | fuel + 1 =>
    match ps with
    | [] => return ""
    | p :: r => do
      let text := joinPieces (← expandPart fuel p)
      let quoted :=
        match p with
        | .text q _ | .parameter q _ _ _ | .output q _ | .arithmetic q _ => q
      let text :=
        if quoted then
          String.ofList (text.toList.flatMap fun c => if c ∈ ['*', '?', '[', '\\'] then ['\\', c]
            else [c])
        else text
      return text ++ (← expandPattern fuel r)

/-- a word that is not cut -/
def expandText (fuel : Nat) (ps : List Part) : Act String :=
  match fuel with
  | 0 => throw .stuck
  | fuel + 1 => return joinPieces (← expandParts fuel ps)

/-- the fields of words -/
def expandWords (fuel : Nat) (ws : List (List Part)) : Act (List String) :=
  match fuel with
  | 0 => throw .stuck
  | fuel + 1 =>
    match ws with
    | [] => return []
    | w :: r => do
      let s ← get
      let separators := ((s.valueOf? "IFS").getD " \t\n").toList
      let lone :=
        match w with
        | [.text true "", .parameter true "@" .value _] => s.args.isEmpty
        | _ => false
      let pieces ← expandParts fuel w
      let rest ← expandWords fuel r
      return (if lone then [] else Fields.ofPieces separators pieces) ++ rest

/-- assigns in turn -/
def assignAll (fuel : Nat) (as : List Assignment) : Act (List (String × String)) :=
  match fuel with
  | 0 => throw .stuck
  | fuel + 1 =>
    match as with
    | [] => return []
    | .mk name value :: r => do
      let v ← expandText fuel value
      return (name, v) :: (← assignAll fuel r)

/-- the descriptors of redirections; none if one of them fails -/
def openAll (fuel : Nat) (rs : List Redirect) (ds : List (Nat × Target)) :
    Act (Option (List (Nat × Target))) :=
  match fuel with
  | 0 => throw .stuck
  | fuel + 1 =>
    match rs with
    | [] => return some ds
    | .mk descriptor kind word :: r => do
      let w ← expandText fuel word
      let before := (← get).descriptors
      modify fun s => { s with descriptors := ds ++ s.descriptors }
      let t ← openTarget kind w
      modify fun s => { s with descriptors := before }
      match t with
      | some t => openAll fuel r ((descriptor, t) :: ds)
      | none => return none

/-- with redirections for a while; a failure of one is a failure of the command -/
def redirected (fuel : Nat) (rs : List Redirect) (a : Act Unit) : Act Unit :=
  match fuel with
  | 0 => throw .stuck
  | fuel + 1 => do
    match ← openAll fuel rs [] with
    | some ds => withDescriptors ds a
    | none => setStatus 2

/-- one program with its arguments and variables -/
def runProgram (fuel : Nat) (name : String) (args : List String) (vars : List (String × String)) :
    Act Unit :=
  match fuel with
  | 0 => throw .stuck
  | fuel + 1 => do
    let s ← get
    match name, args with
    | "sh", _ => runShell fuel args vars
    | "env", _ =>
      let settings := (args.takeWhile fun a => '=' ∈ a.toList).map splitAssignment
      let vars := settings.foldl (fun vs e =>
        (vs.filter (·.1 ≠ e.1)) ++ [(e.1, e.2.getD "")]) vars
      match args.drop settings.length with
      | [] => carryOut (Tool.env { args := [], vars := vars })
      | command :: rest =>
        match s.files.programOf ((vars.lookup "PATH").getD "") command with
        | .ok program => runProgram fuel program rest vars
        | .error e =>
          printError s!"env: '{command}': {e.reason}\n"
          setStatus (if e = .notFound then 127 else 126)
    | _, _ =>
      let reads := name ∈ ["cat", "grep", "sort"]
      let input ← if reads then takeInput else pure []
      match Tool.run? name { args, input, vars := vars, files := s.files } with
      | some run => carryOut run
      | none => setStatus 127

/-- a shell of its own; a signal that ends it is a status for the one that called it -/
def runShell (fuel : Nat) (args : List String) (vars : List (String × String)) : Act Unit :=
  match fuel with
  | 0 => throw .stuck
  | fuel + 1 => do
    let before ← get
    let script : Option (String × String × List String) :=
      match args.dropWhile (· ∈ ["-e", "-u"]) with
      | "-c" :: text :: name :: r => some (text, name, r)
      | ["-c", text] => some (text, "sh", [])
      | _ => none
    match script with
    | none =>
      match args.dropWhile (· ∈ ["-e", "-u"]) with
      | ["-c"] =>
        printError "sh: 0: -c requires an argument\n"
        setStatus 2
      | [] | ["-"] | ["-s"] =>
        let text ← takeInput
        runScript fuel before args vars (String.ofList (Text.decodeLossy text)) "sh" []
      | path :: r =>
        match before.files.read path with
        | .ok text =>
          runScript fuel before args vars (String.ofList (Text.decodeLossy text)) path r
        | .error e =>
          let why := if e = .notFound then "No such file" else e.reason
          printError s!"sh: 0: cannot open {path}: {why}\n"
          setStatus 2
    | some (text, name, r) => runScript fuel before args vars text name r

def runScript (fuel : Nat) (before : State) (args : List String) (vars : List (String × String))
    (text name : String) (params : List String) : Act Unit :=
  match fuel with
  | 0 => throw .stuck
  | fuel + 1 => do
    let s ← get
    let inner : State :=
      { name, args := params, descriptors := s.descriptors, buffers := s.buffers, files := s.files
        time := s.time, exitOnError := args.head? = some "-e" }
    set (inner.ofEnvironment vars)
    let flow ← caught (runLines fuel { rest := text.toList })
    let flow ←
      match flow with
      | some (.killed n) => pure (some (.killed n))
      | some .stuck => pure (some .stuck)
      | _ => runExitTrap fuel
    modify fun t =>
      { before with buffers := t.buffers, files := t.files, time := t.time, status := t.status }
    match flow with
    | some f => throw f
    | none => return

/-- what is to be done at the exit; the status stays, unless it ends with another -/
def runExitTrap (fuel : Nat) : Act (Option Flow) :=
  match fuel with
  | 0 => throw .stuck
  | fuel + 1 => do
    let s ← get
    match s.traps.lookup "EXIT" with
    | none => return none
    | some action =>
      modify fun s => { s with traps := s.traps.filter (·.1 ≠ "EXIT") }
      match ← caught (runLines fuel { rest := action.toList }) with
      | none =>
        setStatus s.status
        return none
      | some (.killed n) => return some (.killed n)
      | some .stuck => return some .stuck
      | some _ => return none

/-- the lines of a script -/
def runLines (fuel : Nat) (source : Source) : Act Unit :=
  match fuel with
  | 0 => throw .stuck
  | fuel + 1 =>
    match source.nextLine? with
    | none => return
    | some (.error (fault, line)) => do
      modify fun s => { s with line }
      complain fault.message
      setStatus 2
      throw .exit
    | some (.ok (c, source)) => do
      run fuel c
      runLines fuel source

/-- a command of the shell itself -/
def runBuiltin (fuel : Nat) (name : String) (args : List String) : Act Unit :=
  match fuel with
  | 0 => throw .stuck
  | fuel + 1 => do
    let s ← get
    match name with
    | ":" | "true" | "umask" => setStatus 0
    | "false" => setStatus 1
    | "echo" => carryOut (echoWords args)
    | "printf" => printfWords args
    | "test" | "[" => condition name args
    | "exit" =>
      match args.head? with
      | none => throw .exit
      | some w =>
        match w.toNat? with
        | some n =>
          setStatus (n % 256)
          throw .exit
        | none =>
          complain s!"exit: Illegal number: {w}"
          setStatus 2
          throw .exit
    | "export" | "readonly" | "local" => exportNames args
    | "unset" =>
      modify fun s => { s with
        vars := s.vars.filter fun e => e.1 ∉ args
        functions := s.functions.filter fun e => e.1 ∉ args }
      setStatus 0
    | "set" =>
      setOptions args
      setStatus 0
    | "shift" =>
      modify fun s => { s with args := s.args.drop (countOf args 1), status := 0 }
    | "read" => readVariables args
    | "cd" => setStatus 0
    | "pwd" => print ("/" ++ "/".intercalate s.files.current ++ "\n")
    | "trap" => setTrap args
    | "wait" =>
      modify fun s => { s with jobs := [], status := 0 }
      runJobs fuel s.jobs
      setStatus 0
    | "return" =>
      setStatus (countOf args s.status)
      throw .returned
    | "break" => throw (.breakOut (countOf args 1))
    | "continue" => throw (.goOn (countOf args 1))
    | "eval" => runLines fuel { rest := (" ".intercalate args).toList, line := s.line }
    | "command" | "exec" =>
      match args with
      | [] => setStatus 0
      | "-v" :: w :: _ =>
        match s.files.programOf ((s.valueOf? "PATH").getD "") w with
        | .ok _ =>
          print ((if w ∈ builtinNames then w else "/usr/bin/" ++ w) ++ "\n")
          setStatus 0
        | .error _ => setStatus (if w ∈ builtinNames then 0 else 127)
      | w :: r =>
        if name = "exec" then
          runExternal fuel w r s.exported
          modify fun s => { s with traps := [] }
          throw .exit
        else if w ∈ builtinNames then runBuiltin fuel w r
        else runExternal fuel w r s.exported
    | "kill" =>
      match killWords args with
      | (none, _) =>
        complain ("kill: invalid signal number or name: " ++ ((args.head?.getD "").drop 1).toString)
        setStatus 2
      | (some _, []) =>
        complain "kill: Usage: kill [-s sigspec | -signum | -sigspec] [pid | job]... or"
        setStatus 2
      | (some n, p :: _) =>
        if p = State.pid ∨ p = "0" then
          setStatus 0
          raise fuel n
        else
          complain "kill: No such process"
          setStatus 1
    | _ => setStatus 0

/-- a signal to the shell -/
def raise (fuel : Nat) (signal : Nat) : Act Unit :=
  match fuel with
  | 0 => throw .stuck
  | fuel + 1 => do
    let s ← get
    let name := (WaitStatus.signalNames[signal - 1]?).getD ""
    if signal = 9 then throw (.killed 9)
    else if signal ∈ stoppingSignals then throw .stuck
    else if signal = 0 then return
    else
      match s.traps.lookup name with
      | some "" => return
      | some action =>
        runLines fuel { rest := action.toList, line := s.line }
        setStatus s.status
      | none => if signal ∈ harmlessSignals then return else throw (.killed signal)

/-- the commands that were put into the background -/
def runJobs (fuel : Nat) (jobs : List Command) : Act Unit :=
  match fuel with
  | 0 => throw .stuck
  | fuel + 1 =>
    match jobs with
    | [] => return
    | c :: r => do
      inSubshell (run fuel c)
      runJobs fuel r

/-- a program by the first word of a command line -/
def runExternal (fuel : Nat) (word : String) (args : List String) (vars : List (String × String)) :
    Act Unit :=
  match fuel with
  | 0 => throw .stuck
  | fuel + 1 => do
    let s ← get
    match s.files.programOf ((s.valueOf? "PATH").getD "") word with
    | .ok name =>
      let before ← get
      match ← caught (runProgram fuel name args vars) with
      | none => return
      | some (.killed n) =>
        modify fun t => { before with
          buffers := t.buffers, files := t.files, time := t.time, status := 128 + n }
      | some f => throw f
    | .error e =>
      let why := if e = .notFound then "not found" else e.reason
      complain s!"{word}: {why}"
      setStatus (if e = .notFound then 127 else 126)

/-- the words of a simple command -/
def runWords (fuel : Nat) (word : String) (args : List String) (settings : List (String × String)) :
    Act Unit :=
  match fuel with
  | 0 => throw .stuck
  | fuel + 1 => do
    let s ← get
    match s.functions.lookup word with
    | some body =>
      modify fun s => { s with args }
      let flow ← caught (run fuel body)
      modify fun t => { t with args := s.args }
      match flow with
      | none | some .returned => return
      | some f => throw f
    | none =>
      if word ∈ builtinNames then runBuiltin fuel word args
      else
        let others := s.exported.filter fun e => (settings.lookup e.1).isNone
        runExternal fuel word args (others ++ settings)

/-- the stages of a pipeline, each with the output of the one before it -/
def runStages (fuel : Nat) (stages : List Command) (input : Option Nat) : Act Unit :=
  match fuel with
  | 0 => throw .stuck
  | fuel + 1 => do
    let source := (input.map fun n => [(0, Target.buffer n)]).getD []
    match stages with
    | [] => return
    | [last] => inSubshell (withDescriptors source (run fuel last))
    | c :: r => do
      let n ← newBuffer []
      let start := (← get).time
      inSubshell (withDescriptors ((1, .buffer n) :: source) (run fuel c))
      let ended := (← get).time
      modify fun s => { s with time := start }
      runStages fuel r (some n)
      modify fun s => { s with time := max ended s.time }

/-- leaves the shell after a failure, where that was asked for -/
def checked (fuel : Nat) (a : Act Unit) : Act Unit :=
  match fuel with
  | 0 => throw .stuck
  | _ + 1 => do
    a
    let s ← get
    if s.exitOnError && !s.tested && s.status ≠ 0 then throw .exit

def runLoop (fuel : Nat) (untilTrue : Bool) (condition body : Command) : Act Unit :=
  match fuel with
  | 0 => throw .stuck
  | fuel + 1 => do
    inCondition (run fuel condition)
    if ((← get).status = 0) = untilTrue then setStatus 0
    else
      let flow ← caught (run fuel body)
      match flow with
      | none | some (.goOn 0) | some (.goOn 1) => runLoop fuel untilTrue condition body
      | some (.breakOut 0) | some (.breakOut 1) => setStatus 0
      | some (.breakOut (n + 1)) => throw (.breakOut n)
      | some (.goOn (n + 1)) => throw (.goOn n)
      | some f => throw f

def runEach (fuel : Nat) (name : String) (words : List String) (body : Command) : Act Unit :=
  match fuel with
  | 0 => throw .stuck
  | fuel + 1 =>
    match words with
    | [] => return
    | w :: r => do
      modify (·.setVariable name w)
      match ← caught (run fuel body) with
      | none | some (.goOn 0) | some (.goOn 1) => runEach fuel name r body
      | some (.breakOut 0) | some (.breakOut 1) => setStatus 0
      | some (.breakOut (n + 1)) => throw (.breakOut n)
      | some (.goOn (n + 1)) => throw (.goOn n)
      | some f => throw f

def runArms (fuel : Nat) (text : String) (arms : List Arm) : Act Unit :=
  match fuel with
  | 0 => throw .stuck
  | fuel + 1 =>
    match arms with
    | [] => setStatus 0
    | .mk patterns body :: r => do
      if ← matchesAny fuel text patterns then run fuel body else runArms fuel text r

def matchesAny (fuel : Nat) (text : String) (patterns : List (List Part)) : Act Bool :=
  match fuel with
  | 0 => throw .stuck
  | fuel + 1 =>
    match patterns with
    | [] => return false
    | p :: r => do
      let pattern ← expandPattern fuel p
      if globMatches pattern text.toList then return true else matchesAny fuel text r

def run (fuel : Nat) (c : Command) : Act Unit :=
  match fuel with
  | 0 => throw .stuck
  | fuel + 1 =>
    match c with
    | .nothing => return
    | .simple line assignments words redirects => do
      modify fun s => { s with line }
      let fields ← expandWords fuel words
      let settings ← assignAll fuel assignments
      match fields with
      | [] =>
        let s ← get
        let status := if words.isEmpty && assignments.isEmpty then 0 else s.status
        for e in settings do
          modify (·.setVariable e.1 e.2)
        setStatus (if assignments.isEmpty then status else 0)
        redirected fuel redirects (return)
      | ["exec"] =>
        match ← openAll fuel redirects [] with
        | some ds => modify fun s => { s with descriptors := ds ++ s.descriptors, status := 0 }
        | none =>
          setStatus 2
          throw .exit
      | word :: args =>
        checked fuel (redirected fuel redirects (runWords fuel word args settings))
    | .redirected body redirects => redirected fuel redirects (run fuel body)
    | .subshell body => checked fuel (inSubshell (run fuel body))
    | .pipeline stages => checked fuel (runStages fuel stages none)
    | .negated body => do
      inCondition (run fuel body)
      setStatus (if (← get).status = 0 then 1 else 0)
    | .andThen a b => do
      inCondition (run fuel a)
      if (← get).status = 0 then run fuel b
    | .orElse a b => do
      inCondition (run fuel a)
      if (← get).status ≠ 0 then run fuel b
    | .sequence a b => do
      run fuel a
      run fuel b
    | .background body => do
      let before ← get
      inSubshell (run fuel body)
      if before.time < (← get).time then set { before with jobs := before.jobs ++ [body] }
      setStatus 0
    | .branch condition yes no => do
      inCondition (run fuel condition)
      if (← get).status = 0 then run fuel yes
      else
        setStatus 0
        run fuel no
    | .loop untilTrue condition body => runLoop fuel untilTrue condition body
    | .forEach name words body => do
      let s ← get
      let fields ← if let some ws := words then expandWords fuel ws else pure s.args
      setStatus 0
      runEach fuel name fields body
    | .choose word arms => do
      let text ← expandText fuel word
      runArms fuel text arms
    | .define name body => do
      modify fun s => { s with functions := (name, body) :: s.functions.filter (·.1 ≠ name) }
      setStatus 0
end

end PromptDispatch.Machine.Shell

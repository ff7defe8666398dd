import PromptDispatch.Machine.Files
import PromptDispatch.Machine.Pattern
import PromptDispatch.Machine.Printf
import PromptDispatch.Text.Lines

/-!
# Programs of a machine

A program gets its arguments, its input, its variables and the files; what comes of it is what it
writes on its two streams, in order, its exit code and the time that it takes.
-/

namespace PromptDispatch.Machine

/-- what a program is given -/
structure ToolInput where
  args : List String
  input : List UInt8 := []
  vars : List (String × String) := []
  files : Files := {}

/-- what comes of a program -/
structure ToolRun where
  /-- what is written, in order; `true` for the stream of errors -/
  writes : List (Bool × List UInt8) := []
  code : Nat := 0
  /-- milliseconds -/
  time : Nat := 0

namespace ToolRun

def print (s : String) : ToolRun := { writes := [(false, Text.encode s.toList)] }

def complain (s : String) (code : Nat) : ToolRun :=
  { writes := [(true, Text.encode (s ++ "\n").toList)], code }

/-- one after the other; a failure of either is a failure -/
def andThen (a b : ToolRun) : ToolRun :=
  { writes := a.writes ++ b.writes, code := max a.code b.code, time := a.time + b.time }

def all (runs : List ToolRun) : ToolRun := runs.foldl andThen {}

end ToolRun

namespace Tool

/-! ## words -/

/-- the options of `echo` before its words: no line end, escapes -/
def echoOptions : Bool × Bool → List String → (Bool × Bool) × List String
  | o, [] => (o, [])
  | (bare, escapes), w :: r =>
    match w.toList with
    | '-' :: c :: cs =>
      if (c :: cs).all (· ∈ ['n', 'e', 'E']) then
        let escapes := (c :: cs).foldl (fun e x => if x = 'e' then true else if x = 'E' then false
          else e) escapes
        echoOptions (bare || (c :: cs).contains 'n', escapes) r
      else ((bare, escapes), w :: r)
    | _ => ((bare, escapes), w :: r)

def echo (args : List String) : ToolRun :=
  let ((bare, escapes), words) := echoOptions (false, false) args
  let text := (" ".intercalate words).toList
  let ending := if bare then [] else [10]
  if escapes then
    let (b, stopped) :=
      EscapeDialect.bytes { leadingZero := true, hexadecimal := true, stops := true } text
    { writes := [(false, if stopped then b else b ++ ending)] }
  else { writes := [(false, Text.encode text ++ ending)] }

def printf (args : List String) : ToolRun :=
  match args with
  | [] => .complain "printf: missing operand\nTry 'printf --help' for more information." 1
  | format :: args =>
    let p := Printf.run { hexadecimal := true, stops := true } format args
    let wrong := p.wrong.map fun a => ToolRun.complain s!"printf: '{a}': expected a numeric value" 1
    let extra : List ToolRun :=
      match p.stopped, p.args with
      | false, a :: _ =>
        [.complain s!"printf: warning: ignoring excess arguments, starting with '{a}'" 0]
      | _, _ => []
    .all ({ writes := [(false, p.bytes)] } :: wrong ++ extra)

/-! ## files -/

def cat (i : ToolInput) : ToolRun :=
  let files := i.args.filter fun a => !(a.startsWith "-" && a ≠ "-")
  let one (a : String) : ToolRun :=
    if a = "-" then { writes := [(false, i.input)] }
    else
      match i.files.read a with
      | .ok b => { writes := [(false, b)] }
      | .error e => .complain s!"cat: {a}: {e.reason}" 1
  .all ((if files.isEmpty then ["-"] else files).map one)

/-- the bytes of the named files, or of the input where none is named -/
def contents (tool : String) (code : Nat) (i : ToolInput) (names : List String) :
    List UInt8 × ToolRun :=
  if names.isEmpty then (i.input, {})
  else
    names.foldl (fun (acc : List UInt8 × ToolRun) a =>
      if a = "-" then (acc.1 ++ i.input, acc.2)
      else
        match i.files.read a with
        | .ok b => (acc.1 ++ b, acc.2)
        | .error e => (acc.1, acc.2.andThen (.complain s!"{tool}: {a}: {e.reason}" code))) ([], {})

def linesOf (b : List UInt8) : List String := (Text.lines (Text.decodeLossy b)).map String.ofList

def printLines (ls : List String) : ToolRun := .print (String.join (ls.map (· ++ "\n")))

/-- the letters of the options among arguments, and the other arguments -/
def splitOptions (args : List String) : List Char × List String :=
  let isOption (a : String) := a.startsWith "-" && a ≠ "-"
  ((args.filter isOption).flatMap fun a => a.toList.drop 1, args.filter fun a => !isOption a)

def leadingNumber (s : String) : Int :=
  let (negative, s) :=
    match s.toList.dropWhile (· = ' ') with
    | '-' :: r => (true, r)
    | r => (false, r)
  let n := (s.takeWhile Char.isDigit).foldl (fun n c => n * 10 + (c.toNat - '0'.toNat)) 0
  if negative then -n else n

def sort (i : ToolInput) : ToolRun :=
  let (options, names) := splitOptions i.args
  let (b, problems) := contents "sort" 2 i names
  let lines := linesOf b
  let le (x y : String) : Bool :=
    if 'n' ∈ options && leadingNumber x ≠ leadingNumber y then leadingNumber x ≤ leadingNumber y
    else x ≤ y
  let sorted := if 'r' ∈ options then lines.mergeSort fun x y => le y x else lines.mergeSort le
  problems.andThen (printLines (if 'u' ∈ options then sorted.eraseReps else sorted))

def grep (i : ToolInput) : ToolRun :=
  let (options, names) := splitOptions i.args
  match names with
  | [] => .complain "Usage: grep [OPTION]... PATTERNS [FILE]...\nTry 'grep --help' for more information." 2
  | pattern :: names =>
    let folded (s : String) := if 'i' ∈ options then s.toList.map Char.toLower else s.toList
    let p := if 'F' ∈ options then Pattern.literal (folded pattern) else .ofText (folded pattern)
    let (b, problems) := contents "grep" 2 i names
    let hits := (linesOf b).filter fun l => p.isIn (folded l) != ('v' ∈ options)
    let shown : ToolRun :=
      if 'q' ∈ options then {}
      else if 'c' ∈ options then .print s!"{hits.length}\n"
      else printLines hits
    let found : ToolRun := { code := if hits.isEmpty then 1 else 0 }
    (problems.andThen shown).andThen found

/-- the names in directories and the names of files -/
def ls (i : ToolInput) : ToolRun :=
  let (options, names) := splitOptions i.args
  let names := if names.isEmpty then ["."] else names
  let visible (n : String) := !n.startsWith "." || 'a' ∈ options || 'A' ∈ options
  let missing := names.filterMap fun a =>
    match i.files.entry a with
    | .error e => some (ToolRun.complain s!"ls: cannot access '{a}': {e.reason}" 2)
    | .ok _ => none
  let isDirectory (a : String) := (i.files.entry a matches .ok .directory) && 'd' ∉ options
  let plain := names.filter fun a => (i.files.entry a).isOk && !isDirectory a
  let directories := (names.filter isDirectory).mergeSort fun a b => a ≤ b
  let listing (a : String) : List String :=
    match i.files.locate a with
    | .ok p => (i.files.names p).filter visible
    | .error _ => []
  let titled (a : String) : ToolRun := (ToolRun.print s!"{a}:\n").andThen (printLines (listing a))
  let listings :=
    match names, directories with
    | [_], [a] => [printLines (listing a)]
    | _, _ =>
      ((directories.map titled).intersperse (.print "\n")) |>
        fun l => if plain.isEmpty || l.isEmpty then l else .print "\n" :: l
  .all (missing ++ [printLines (plain.mergeSort fun a b => a ≤ b)] ++ listings)

/-! ## numbers and time -/

def seq (args : List String) : ToolRun :=
  match args.mapM Conversion.integer? with
  | some [b] => count 1 1 b
  | some [a, b] => count a 1 b
  | some [a, s, b] => count a s b
  | _ =>
    match args.find? fun a => (Conversion.integer? a).isNone with
    | some a =>
      .complain s!"seq: invalid floating point argument: '{a}'\nTry 'seq --help' for more information." 1
    | none => .complain "seq: missing operand\nTry 'seq --help' for more information." 1
where
  /-- from `a` to `b` in steps of `s` -/
  count (a s b : Int) : ToolRun :=
    if s = 0 then .complain "seq: invalid Zero increment value: '0'" 1
    else
      let n := if 0 < s then ((b - a) / s + 1).toNat else ((a - b) / (-s) + 1).toNat
      printLines ((List.range n).map fun (k : Nat) => toString (a + s * (k : Nat)))

/-- a span as `sleep` reads it, in milliseconds -/
def span? (s : String) : Option Nat :=
  let cs := s.toList
  let (unit, digits) :=
    match cs.getLast? with
    | some 's' => (1000, cs.dropLast)
    | some 'm' => (60000, cs.dropLast)
    | some 'h' => (3600000, cs.dropLast)
    | some 'd' => (86400000, cs.dropLast)
    | _ => (1000, cs)
  let number (l : List Char) : Option Nat :=
    l.foldlM (fun n c => (EscapeDialect.digitIn? 10 c).map (n * 10 + ·)) 0
  match digits.splitOn '.' with
  | [whole] => if whole = [] then none else (number whole).map (· * unit)
  | [whole, part] =>
    if whole = [] ∧ part = [] then none
    else
      (number whole).bind fun w => (number part).map fun p =>
        w * unit + p * unit / Nat.pow 10 part.length
  | _ => none

def sleep (args : List String) : ToolRun :=
  match args with
  | [] => .complain "sleep: missing operand\nTry 'sleep --help' for more information." 1
  | _ =>
    match args.find? fun a => (span? a).isNone with
    | some a =>
      .complain s!"sleep: invalid time interval '{a}'\nTry 'sleep --help' for more information." 1
    | none => { time := (args.filterMap span?).foldl (· + ·) 0 }

def env (i : ToolInput) : ToolRun := printLines (i.vars.map fun v => s!"{v.1}={v.2}")

/-- a program by its name; the shell and `env` with a command are not among these -/
def run? (name : String) (i : ToolInput) : Option ToolRun :=
  match name with
  | "echo" => some (echo i.args)
  | "printf" => some (printf i.args)
  | "true" => some {}
  | "false" => some { code := 1 }
  | "sleep" => some (sleep i.args)
  | "cat" => some (cat i)
  | "env" => some (env i)
  | "seq" => some (seq i.args)
  | "grep" => some (grep i)
  | "sort" => some (sort i)
  | "ls" => some (ls i)
  | _ => none

end Tool

end PromptDispatch.Machine

import PromptDispatch.Arguments.Grammar

/-!
# Levels of a command line

A command line goes down the tree of commands, a level for each.  A level holds what has been given
to its command; a value is read only when the next argument comes, so an argument that is unknown is
noticed before a wrong value in front of it.
-/

namespace PromptDispatch

/-! ## the shape of an argument -/

inductive ArgumentShape where
  /-- two hyphens; only words follow -/
  | divider
  | long (name : String) (value : Option String)
  | short (letters : List Char)
  | word
  deriving DecidableEq, Repr

/-- a single hyphen is a word -/
def ArgumentShape.of : List Char → ArgumentShape
  | ['-', '-'] => .divider
  | '-' :: '-' :: r =>
    let name := String.ofList (r.takeWhile (· ≠ '='))
    match r.dropWhile (· ≠ '=') with
    | [] => .long name none
    | _ :: value => .long name (some (String.ofList value))
  | '-' :: c :: r => .short (c :: r)
  | _ => .word

/-! ## levels -/

/-- an argument that is not read yet -/
inductive Waiting where
  | option (option : OptionSpec) (value : Option String)
  | word (form : ValueForm) (value : String)
  deriving DecidableEq, Repr

structure Level where
  spec : CommandSpec
  /-- the options that were given, in order -/
  values : List (String × ArgumentValue) := []
  words : List ArgumentValue := []
  waiting : Option Waiting := none

namespace Level

def isGiven (l : Level) (name : String) : Bool := l.values.any (·.1 = name)

/-- the next word or argument is the value of the option before it -/
def awaits (l : Level) : Bool :=
  match l.waiting with
  | some (.option _ none) => true
  | _ => false

def add (l : Level) (name : String) (v : ArgumentValue) : Level :=
  { l with values := l.values ++ [(name, v)], waiting := none }

/-- an option with its value -/
def give (l : Level) (o : OptionSpec) (value : String) : Except UsageFault Level :=
  match o.use with
  | .help => .error .help
  | .version => .error .version
  | .flag => if l.isGiven o.name then .error .repeatedOption else .ok (l.add o.name .given)
  | .single form =>
    if l.isGiven o.name then .error .repeatedOption
    else (form.read value).map (l.add o.name)
  | .repeated form => (form.read value).map (l.add o.name)

/-- reads the argument that is waiting -/
def flush (l : Level) : Except UsageFault Level :=
  match l.waiting with
  | none => .ok l
  | some (.option _ none) => .error .missingValue
  | some (.option o (some v)) => l.give o v
  | some (.word form v) =>
    (form.read v).map fun x => { l with words := l.words ++ [x], waiting := none }

def await (l : Level) (w : Waiting) : Level := { l with waiting := some w }

def takeLong (l : Level) (name : String) (value : Option String) : Except UsageFault Level :=
  match l.spec.long? name with
  | none => .error .unknownArgument
  | some o =>
    match o.use.takesValue, value with
    | false, some _ => .error .surplusValue
    | false, none => l.flush.bind fun l => l.give o ""
    | true, some v => l.flush.bind fun l => l.give o v
    | true, none => l.flush.map fun l => l.await (.option o none)

/-- letters after one hyphen; what follows the letter of an option with a value is that value -/
def takeShort (l : Level) : List Char → Except UsageFault Level
  | [] => .ok l
  | c :: r =>
    match l.spec.short? c with
    | none => .error .unknownArgument
    | some o =>
      if o.use.takesValue then
        match r with
        | [] => l.flush.map fun l => l.await (.option o none)
        | '=' :: v => l.flush.bind fun l => l.give o (String.ofList v)
        | _ => l.flush.bind fun l => l.give o (String.ofList r)
      else (l.flush.bind fun l => l.give o "").bind fun l => l.takeShort r

/-- the number of words that have come, the waiting one among them -/
def wordCount (l : Level) : Nat :=
  match l.waiting with
  | some (.word _ _) => l.words.length + 1
  | _ => l.words.length

/-- a word that the command has no place for -/
def strayWord (l : Level) (afterDivider : Bool) (w : String) : UsageFault :=
  let isMember := (l.spec.member? w).isSome || w = "help"
  if l.spec.isGroup && !(afterDivider && isMember) then .unknownSubcommand else .unknownArgument

def takeWord (l : Level) (afterDivider : Bool) (w : String) : Except UsageFault Level :=
  match l.spec.words[l.wordCount]? with
  | some spec => l.flush.map fun l => l.await (.word spec.form w)
  | none => .error (l.strayWord afterDivider w)

/-- one argument that is no subcommand and no divider -/
def take (l : Level) (w : String) : Except UsageFault Level :=
  match ArgumentShape.of w.toList with
  | .long name value => l.takeLong name value
  | .short letters => l.takeShort letters
  | _ =>
    match l.waiting with
    | some (.option o none) => .ok (l.await (.option o (some w)))
    | _ => l.takeWord false w

/-! ## ends -/

/-- the end of the innermost level -/
def finish (l : Level) : Except UsageFault Level :=
  l.flush.bind fun l =>
    if l.spec.isGroup then
      .error (if l.values.isEmpty then .nothingGiven else .missingSubcommand)
    else if l.words.length < (l.spec.words.filter (·.required)).length then .error .missingWord
    else .ok l

/-! ## looking up -/

def text? (l : Level) (name : String) : Option String :=
  l.values.findSome? fun e =>
    match e with
    | (n, .text s) => if n = name then some s else none
    | _ => none

def seconds? (l : Level) (name : String) : Option UInt64 :=
  l.values.findSome? fun e =>
    match e with
    | (n, .seconds k) => if n = name then some k else none
    | _ => none

def settings (l : Level) : List (String × String) :=
  l.values.filterMap fun e =>
    match e.2 with
    | .setting name value => some (name, value)
    | _ => none

def word? (l : Level) (i : Nat) : Option String :=
  match l.words[i]? with
  | some (.text s) => some s
  | _ => none

end Level

end PromptDispatch

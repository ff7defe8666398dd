/-!
# Values of arguments

What stands after an option, or as a word of its own, has a form.  `ValueForm.read` gives the value
that a text has in a form, or why it has none.
-/

namespace PromptDispatch

/-! ## faults -/

/-- why a text is not a value of its form -/
inductive ValueFault where
  | noEquals (text : String)
  | emptyKey (text : String)
  | notDigits
  | emptyNumber
  | tooLarge
  deriving DecidableEq, Repr

def ValueFault.message : ValueFault → String
  | .noEquals text => s!"invalid KEY=VALUE: no '=' found in '{text}'"
  | .emptyKey text => s!"invalid KEY=VALUE: empty key in '{text}'"
  | .notDigits => "invalid digit found in string"
  | .emptyNumber => "cannot parse integer from empty string"
  | .tooLarge => "number too large to fit in target type"

/-- why a command line is not carried out -/
inductive UsageFault where
  /-- help was asked for -/
  | help
  /-- the version was asked for -/
  | version
  /-- there is nothing where a subcommand should be -/
  | nothingGiven
  /-- there are options, but no subcommand -/
  | missingSubcommand
  | missingWord
  | unknownArgument
  | unknownSubcommand
  | missingValue
  | badValue (fault : ValueFault)
  | repeatedOption
  /-- a value for an option that takes none -/
  | surplusValue
  deriving DecidableEq, Repr

/-- the exit code after a command line that is not carried out -/
def UsageFault.exitCode : UsageFault → Nat
  | .help | .version => 0
  | _ => 2

/-! ## forms -/

inductive ValueForm where
  | text
  /-- a text that is not empty -/
  | path
  /-- a number below `2 ^ 64` -/
  | seconds
  /-- a name, an equals sign and a text -/
  | setting
  deriving DecidableEq, Repr

inductive ArgumentValue where
  /-- an option without value was given -/
  | given
  | text (s : String)
  | seconds (n : UInt64)
  | setting (name value : String)
  deriving DecidableEq, Repr

/-- one more digit of a number -/
def pushDigit (n : Nat) (c : Char) : Except ValueFault Nat :=
  if !c.isDigit then .error .notDigits
  else
    let m := n * 10 + (c.toNat - '0'.toNat)
    if m < UInt64.size then .ok m else .error .tooLarge

/-- decimal digits, perhaps after a plus sign -/
def readSeconds (s : List Char) : Except ValueFault UInt64 :=
  let digits :=
    match s with
    | '+' :: r => r
    | _ => s
  if s = [] then .error .emptyNumber
  else if digits = [] then .error .notDigits
  else (digits.foldlM pushDigit 0).map UInt64.ofNat

/-- the text before the first equals sign and the text after it -/
def readSetting (text : String) : Except ValueFault (String × String) :=
  let s := text.toList
  let name := s.takeWhile (· ≠ '=')
  match s.dropWhile (· ≠ '=') with
  | [] => .error (.noEquals text)
  | _ :: value =>
    if name = [] then .error (.emptyKey text)
    else .ok (String.ofList name, String.ofList value)

def ValueForm.read : ValueForm → String → Except UsageFault ArgumentValue
  | .text, s => .ok (.text s)
  | .path, s => if s = "" then .error .missingValue else .ok (.text s)
  | .seconds, s => ((readSeconds s.toList).map .seconds).mapError .badValue
  | .setting, s => ((readSetting s).map fun e => .setting e.1 e.2).mapError .badValue

end PromptDispatch

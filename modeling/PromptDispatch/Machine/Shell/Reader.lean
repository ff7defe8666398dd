import PromptDispatch.Machine.Shell.Arithmetic
import PromptDispatch.Machine.Shell.Syntax

/-!
# Reading scripts

`readLine` reads the commands up to the end of a line, so that a script is carried out line by line
and a mistake further on does not keep the lines before it from being run.
-/

namespace PromptDispatch.Machine.Shell

/-- the rest of a script and the number of its line -/
structure Source where
  rest : List Char
  line : Nat := 1

/-- why a script cannot be read -/
inductive ReadFault where
  | openQuote
  | badSubstitution
  /-- what stands there, and what should -/
  | unexpected (found : String) (expected : Option String)
  deriving DecidableEq, Repr

def ReadFault.message : ReadFault → String
  | .openQuote => "Syntax error: Unterminated quoted string"
  | .badSubstitution => "Syntax error: Bad substitution"
  | .unexpected found none => s!"Syntax error: {found} unexpected"
  | .unexpected found (some expected) =>
    s!"Syntax error: {found} unexpected (expecting \"{expected}\")"

/-- a fault and the line that it is on -/
abbrev Reading (α : Type) := Except (ReadFault × Nat) (α × Source)

namespace Source

def fail {α : Type} (s : Source) (f : ReadFault) : Reading α := .error (f, s.line)

/-- past `n` characters -/
def skip (s : Source) (n : Nat := 1) : Source :=
  { rest := s.rest.drop n, line := s.line + ((s.rest.take n).filter (· = '\n')).length }

def startsWith (s : Source) (t : String) : Bool := t.toList.isPrefixOf s.rest

/-- past blanks, line ends behind a backslash, and a comment -/
def skipBlanks : Nat → Source → Source
  | 0, s => s
  | fuel + 1, s =>
    match s.rest with
    | ' ' :: _ | '\t' :: _ => skipBlanks fuel s.skip
    | '\\' :: '\n' :: _ => skipBlanks fuel (s.skip 2)
    | '#' :: _ => s.skip (s.rest.takeWhile (· ≠ '\n')).length
    | _ => s

def trim (s : Source) : Source := skipBlanks (s.rest.length + 1) s

/-- past line ends too -/
def skipLines : Nat → Source → Source
  | 0, s => s
  | fuel + 1, s =>
    let s := s.trim
    match s.rest with
    | '\n' :: _ => skipLines fuel s.skip
    | _ => s

def trimLines (s : Source) : Source := skipLines (s.rest.length + 1) s

end Source

/-! ## characters -/

def isMeta (c : Char) : Bool := c ∈ [' ', '\t', '\n', ';', '&', '|', '<', '>', '(', ')']

def specialNames : List Char := ['?', '$', '#', '@', '*', '!', '-']

def reservedWords : List String :=
  ["then", "else", "elif", "fi", "do", "done", "esac", "\x7d"]

/-- words that begin a command and cannot be its name -/
def openingWords : List String := ["if", "while", "until", "for", "case", "\x7b", "!"]

/-- the word that a source begins with, if nothing in it is quoted -/
def bareWord (s : Source) : String :=
  String.ofList (s.rest.takeWhile fun c => !isMeta c)

/-- what stands at a place, as it is named in a complaint -/
def describe (s : Source) : String :=
  match s.rest with
  | [] => "end of file"
  | '\n' :: _ => "newline"
  | c :: d :: _ =>
    if isMeta c then
      if c = d && c ∈ [';', '&', '|', '<', '>'] then s!"\"{c}{d}\"" else s!"\"{c}\""
    else if bareWord s ∈ reservedWords then s!"\"{bareWord s}\""
    else "word"
  | [c] => if isMeta c || c = '}' then s!"\"{c}\"" else "word"

/-- the characters up to a closing pair of parentheses, at the same depth -/
def untilArithmeticEnd : Nat → List Char → List Char → Option (List Char × List Char)
  | _, _, [] => none
  | 0, before, ')' :: ')' :: r => some (before.reverse, r)
  | depth, before, '(' :: r => untilArithmeticEnd (depth + 1) ('(' :: before) r
  | depth + 1, before, ')' :: r => untilArithmeticEnd depth (')' :: before) r
  | depth, before, c :: r => untilArithmeticEnd depth (c :: before) r

/-- the characters up to a back quote, with its escapes put in place -/
def untilBackquote : List Char → List Char → Option (List Char × List Char)
  | _, [] => none
  | before, '`' :: r => some (before.reverse, r)
  | before, '\\' :: c :: r =>
    untilBackquote (if c ∈ ['`', '\\', '$'] then c :: before else c :: '\\' :: before) r
  | before, c :: r => untilBackquote (c :: before) r

def operatorOf (colon : Bool) (c : Char) : Option ParameterOp :=
  match c with
  | '-' => some (.default colon)
  | '=' => some (.assign colon)
  | '+' => some (.alternative colon)
  | '?' => some (.require colon)
  | _ => none

/-- puts a text before parts, joined with one of the same kind -/
def consText (quoted : Bool) (s : String) : List Part → List Part
  | .text q t :: r => if q = quoted then .text q (s ++ t) :: r else .text quoted s :: .text q t :: r
  | ps => .text quoted s :: ps

/-! ## words and commands -/

mutual
/-- the parts of a word up to a character that ends it; in braces, only `}` does -/
def readParts (fuel : Nat) (inBraces : Bool) (s : Source) : Reading (List Part) :=
  match fuel with
  | 0 => s.fail .openQuote
  | fuel + 1 =>
    match s.rest with
    | [] => if inBraces then s.fail .badSubstitution else .ok ([], s)
    | c :: r =>
      if inBraces && c = '}' then .ok ([], s)
      else if !inBraces && isMeta c then .ok ([], s)
      else if c = '\'' then
        let inner := r.takeWhile (· ≠ '\'')
        if inner.length = r.length then s.fail .openQuote
        else
          (readParts fuel inBraces (s.skip (inner.length + 2))).map fun (ps, s) =>
            (.text true (String.ofList inner) :: ps, s)
      else if c = '"' then
        (readDouble fuel s.skip).bind fun (inner, s) =>
          (readParts fuel inBraces s).map fun (ps, s) => (.text true "" :: inner ++ ps, s)
      else if c = '\\' then
        match r with
        | [] => .ok ([.text true "\\"], s.skip)
        | '\n' :: _ => readParts fuel inBraces (s.skip 2)
        | d :: _ =>
          (readParts fuel inBraces (s.skip 2)).map fun (ps, s) =>
            (.text true (String.singleton d) :: ps, s)
      else if c = '$' || c = '`' then
        (readDollar fuel false s).bind fun (p, s) =>
          (readParts fuel inBraces s).map fun (ps, s) => (p :: ps, s)
      else
        (readParts fuel inBraces s.skip).map fun (ps, s) =>
          (consText false (String.singleton c) ps, s)

/-- the parts up to a closing double quote -/
def readDouble (fuel : Nat) (s : Source) : Reading (List Part) :=
  match fuel with
  | 0 => s.fail .openQuote
  | fuel + 1 =>
    match s.rest with
    | [] => s.fail .openQuote
    | c :: r =>
      if c = '"' then .ok ([], s.skip)
      else if c = '\\' then
        match r with
        | [] => s.fail .openQuote
        | '\n' :: _ => readDouble fuel (s.skip 2)
        | d :: _ =>
          let t := if d ∈ ['$', '`', '"', '\\'] then String.singleton d else String.ofList ['\\', d]
          (readDouble fuel (s.skip 2)).map fun (ps, s) => (consText true t ps, s)
      else if c = '$' || c = '`' then
        (readDollar fuel true s).bind fun (p, s) =>
          (readDouble fuel s).map fun (ps, s) => (p :: ps, s)
      else
        (readDouble fuel s.skip).map fun (ps, s) => (consText true (String.singleton c) ps, s)

/-- a parameter, the output of commands or arithmetic; a lone `$` is itself -/
def readDollar (fuel : Nat) (quoted : Bool) (s : Source) : Reading Part :=
  match fuel with
  | 0 => s.fail .openQuote
  | fuel + 1 =>
    match s.rest with
    | '`' :: r =>
      match untilBackquote [] r with
      | none => s.fail .openQuote
      | some (inner, rest) =>
        (readScript fuel { rest := inner, line := s.line }).map fun (body, _) =>
          (.output quoted body, { s with rest })
    | '$' :: '(' :: '(' :: r =>
      match untilArithmeticEnd 0 [] r with
      | none => s.fail (.unexpected "end of file" (some "))"))
      | some (inner, rest) =>
        (readDouble fuel { rest := inner ++ ['"'], line := s.line }).map fun (ps, _) =>
          (.arithmetic quoted ps, { s with rest })
    | '$' :: '(' :: _ =>
      (readList fuel (s.skip 2)).bind fun (body, s) =>
        let s := s.trimLines
        if s.startsWith ")" then .ok (.output quoted body, s.skip)
        else s.fail (.unexpected (describe s) (some ")"))
    | '$' :: '{' :: _ => readBraces fuel quoted (s.skip 2)
    | '$' :: c :: _ =>
      if c ∈ specialNames || c.isDigit then
        .ok (.parameter quoted (String.singleton c) .value [], s.skip 2)
      else if Arithmetic.isNameStart c then
        let name := (s.rest.drop 1).takeWhile Arithmetic.isNameChar
        .ok (.parameter quoted (String.ofList name) .value [], s.skip (name.length + 1))
      else .ok (.text quoted "$", s.skip)
    | _ => .ok (.text quoted "$", s.skip)

/-- a parameter in braces, after the opening one -/
def readBraces (fuel : Nat) (quoted : Bool) (s : Source) : Reading Part :=
  match fuel with
  | 0 => s.fail .badSubstitution
  | fuel + 1 =>
    let takeName (r : List Char) : List Char :=
      match r with
      | c :: _ =>
        if Arithmetic.isNameStart c then r.takeWhile Arithmetic.isNameChar
        else if c.isDigit then r.takeWhile Char.isDigit
        else if c ∈ specialNames then [c]
        else []
      | [] => []
    let name := takeName s.rest
    let after := s.skip name.length
    let named := String.ofList name
    match name, s.rest, after.rest with
    | ['#'], _, '}' :: _ => .ok (.parameter quoted "#" .value [], after.skip)
    | ['#'], _, _ =>
      let name := takeName after.rest
      let after := after.skip name.length
      if name ≠ [] && after.startsWith "\x7d" then
        .ok (.parameter quoted (String.ofList name) .length [], after.skip)
      else after.fail .badSubstitution
    | [], _, _ => s.fail .badSubstitution
    | _, _, '}' :: _ => .ok (.parameter quoted named .value [], after.skip)
    | _, _, c :: r =>
      let (op, width) : Option ParameterOp × Nat :=
        match c, r with
        | ':', d :: _ => (operatorOf true d, 2)
        | '#', '#' :: _ => (some (.dropStart true), 2)
        | '#', _ => (some (.dropStart false), 1)
        | '%', '%' :: _ => (some (.dropEnd true), 2)
        | '%', _ => (some (.dropEnd false), 1)
        | _, _ => (operatorOf false c, 1)
      match op with
      | none => after.fail .badSubstitution
      | some op =>
        (readParts fuel true (after.skip width)).map fun (word, s) =>
          (.parameter quoted named op word, s.skip)
    | _, _, [] => after.fail .badSubstitution

/-- a redirection, where one stands -/
def readRedirect (fuel : Nat) (s : Source) : Reading (Option Redirect) :=
  match fuel with
  | 0 => s.fail .openQuote
  | fuel + 1 =>
    let digits := s.rest.takeWhile Char.isDigit
    let at' := s.skip digits.length
    let descriptor := (String.ofList digits).toNat?
    let kind : Option (RedirectKind × Nat × Nat) :=
      match at'.rest with
      | '>' :: '>' :: _ => some (.append, 1, 2)
      | '>' :: '&' :: _ => some (.duplicate, 1, 2)
      | '>' :: '|' :: _ => some (.output, 1, 2)
      | '>' :: _ => some (.output, 1, 1)
      | '<' :: '&' :: _ => some (.duplicate, 0, 2)
      | '<' :: _ => some (.input, 0, 1)
      | _ => none
    match kind with
    | none => .ok (none, s)
    | some (kind, usual, width) =>
      (readParts fuel false (at'.skip width).trim).bind fun (target, s') =>
        if target.isEmpty then s'.fail (.unexpected (describe s') none)
        else .ok (some (.mk (descriptor.getD usual) kind target), s')

def readRedirects (fuel : Nat) (s : Source) : Reading (List Redirect) :=
  match fuel with
  | 0 => s.fail .openQuote
  | fuel + 1 =>
    (readRedirect fuel s.trim).bind fun (r, s) =>
      match r with
      | none => .ok ([], s)
      | some r => (readRedirects fuel s).map fun (rs, s) => (r :: rs, s)

/-- the rest of a simple command; assignments stand before the first word -/
def readSimple (fuel : Nat) (line : Nat) (as : List Assignment) (ws : List (List Part))
    (rs : List Redirect) (s : Source) : Reading Command :=
  match fuel with
  | 0 => s.fail .openQuote
  | fuel + 1 =>
    let s := s.trim
    (readRedirect fuel s).bind fun (r, s') =>
      match r with
      | some r => readSimple fuel line as ws (rs ++ [r]) s'
      | none =>
        let name := s.rest.takeWhile Arithmetic.isNameChar
        if ws.isEmpty && name ≠ [] && !((name.head?.map Char.isDigit).getD true) &&
            (s.skip name.length).startsWith "=" then
          (readParts fuel false (s.skip (name.length + 1))).bind fun (value, s) =>
            readSimple fuel line (as ++ [.mk (String.ofList name) value]) ws rs s
        else
          (readParts fuel false s).bind fun (word, s') =>
            if word.isEmpty then .ok (.simple line as ws rs, s)
            else readSimple fuel line as (ws ++ [word]) rs s'

/-- a word that must stand next -/
def readReserved (fuel : Nat) (word : String) (s : Source) : Reading Unit :=
  match fuel with
  | 0 => s.fail .openQuote
  | _ + 1 =>
    let s := s.trimLines
    if bareWord s = word then .ok ((), s.skip word.length)
    else s.fail (.unexpected (describe s) (some word))

/-- the commands between two words -/
def readBlock (fuel : Nat) (first last : String) (s : Source) : Reading Command :=
  match fuel with
  | 0 => s.fail .openQuote
  | fuel + 1 =>
    (readReserved fuel first s).bind fun (_, s) =>
      (readList fuel s).bind fun (body, s) =>
        (readReserved fuel last s).map fun (_, s) => (body, s)

/-- what follows a condition: `then`, its commands, and perhaps others -/
def readBranches (fuel : Nat) (s : Source) : Reading Command :=
  match fuel with
  | 0 => s.fail .openQuote
  | fuel + 1 =>
    (readList fuel s).bind fun (condition, s) =>
      (readReserved fuel "then" s).bind fun (_, s) =>
        (readList fuel s).bind fun (yes, s) =>
          let s := s.trimLines
          match bareWord s with
          | "elif" =>
            (readBranches fuel (s.skip 4)).map fun (no, s) => (.branch condition yes no, s)
          | "else" =>
            (readList fuel (s.skip 4)).bind fun (no, s) =>
              (readReserved fuel "fi" s).map fun (_, s) => (.branch condition yes no, s)
          | _ => (readReserved fuel "fi" s).map fun (_, s) => (.branch condition yes .nothing, s)

def readWords (fuel : Nat) (s : Source) : Reading (List (List Part)) :=
  match fuel with
  | 0 => s.fail .openQuote
  | fuel + 1 =>
    (readParts fuel false s.trim).bind fun (word, s) =>
      if word.isEmpty then .ok ([], s)
      else (readWords fuel s).map fun (ws, s) => (word :: ws, s)

def readFor (fuel : Nat) (s : Source) : Reading Command :=
  match fuel with
  | 0 => s.fail .openQuote
  | fuel + 1 =>
    let s := s.trim
    let name := s.rest.takeWhile Arithmetic.isNameChar
    if name = [] then s.fail (.unexpected (describe s) none)
    else
      let s := (s.skip name.length).trimLines
      let named := String.ofList name
      let finish (words : Option (List (List Part))) (s : Source) : Reading Command :=
        let s := s.trim
        let s := if s.startsWith ";" then s.skip else s
        (readBlock fuel "do" "done" s).map fun (body, s) => (.forEach named words body, s)
      if bareWord s = "in" then
        (readWords fuel (s.skip 2)).bind fun (ws, s) => finish (some ws) s
      else finish none s

def readPatterns (fuel : Nat) (s : Source) : Reading (List (List Part)) :=
  match fuel with
  | 0 => s.fail .openQuote
  | fuel + 1 =>
    (readParts fuel false s.trim).bind fun (p, s) =>
      let s := s.trim
      if p.isEmpty then s.fail (.unexpected (describe s) none)
      else if s.startsWith "|" then (readPatterns fuel s.skip).map fun (ps, s) => (p :: ps, s)
      else if s.startsWith ")" then .ok ([p], s.skip)
      else s.fail (.unexpected (describe s) (some ")"))

def readArms (fuel : Nat) (s : Source) : Reading (List Arm) :=
  match fuel with
  | 0 => s.fail .openQuote
  | fuel + 1 =>
    let s := s.trimLines
    if bareWord s = "esac" then .ok ([], s.skip 4)
    else
      (readPatterns fuel (if s.startsWith "(" then s.skip else s)).bind fun (ps, s) =>
        (readList fuel s).bind fun (body, s) =>
          let s := s.trimLines
          if s.startsWith ";;" then
            (readArms fuel (s.skip 2)).map fun (arms, s) => (.mk ps body :: arms, s)
          else (readReserved fuel "esac" s).map fun (_, s) => ([.mk ps body], s)

def readCase (fuel : Nat) (s : Source) : Reading Command :=
  match fuel with
  | 0 => s.fail .openQuote
  | fuel + 1 =>
    (readParts fuel false s.trim).bind fun (word, s) =>
      (readReserved fuel "in" s).bind fun (_, s) =>
        (readArms fuel s).map fun (arms, s) => (.choose word arms, s)

/-- one command without pipes -/
def readCommand (fuel : Nat) (s : Source) : Reading Command :=
  match fuel with
  | 0 => s.fail .openQuote
  | fuel + 1 =>
    let s := s.trim
    let word := bareWord s
    let withRedirects (r : Reading Command) : Reading Command :=
      r.bind fun (body, s) =>
        (readRedirects fuel s).map fun (rs, s) =>
          (if rs.isEmpty then body else .redirected body rs, s)
    if s.startsWith "(" then
      withRedirects ((readList fuel s.skip).bind fun (body, s) =>
        let s := s.trimLines
        if s.startsWith ")" then .ok (.subshell body, s.skip)
        else s.fail (.unexpected (describe s) (some ")")))
    else
      match word with
      | "\x7b" => withRedirects (readBlock fuel "\x7b" "\x7d" s)
      | "if" => withRedirects (readBranches fuel (s.skip 2))
      | "while" => withRedirects ((readList fuel (s.skip 5)).bind fun (c, s) =>
          (readBlock fuel "do" "done" s).map fun (body, s) => (.loop false c body, s))
      | "until" => withRedirects ((readList fuel (s.skip 5)).bind fun (c, s) =>
          (readBlock fuel "do" "done" s).map fun (body, s) => (.loop true c body, s))
      | "for" => withRedirects (readFor fuel (s.skip 3))
      | "case" => withRedirects (readCase fuel (s.skip 4))
      | _ =>
        if word ∈ reservedWords then s.fail (.unexpected (describe s) none)
        else
          let after := (s.skip word.length).trim
          if word ≠ "" && word.toList.all Arithmetic.isNameChar && after.startsWith "(" then
            let inner := after.skip.trim
            if inner.startsWith ")" then
              (readCommand fuel inner.skip.trimLines).map fun (body, s) => (.define word body, s)
            else inner.fail (.unexpected (describe inner) (some ")"))
          else
            (readSimple fuel s.line [] [] [] s).bind fun (c, s') =>
              match c with
              | .simple _ [] [] [] => s.fail (.unexpected (describe s) none)
              | _ => .ok (c, s')

/-- commands with pipes between them -/
def readStages (fuel : Nat) (s : Source) : Reading (List Command) :=
  match fuel with
  | 0 => s.fail .openQuote
  | fuel + 1 =>
    (readCommand fuel s).bind fun (c, s) =>
      let s := s.trim
      if s.startsWith "|" && !s.startsWith "||" then
        (readStages fuel s.skip.trimLines).map fun (cs, s) => (c :: cs, s)
      else .ok ([c], s)

def readPipeline (fuel : Nat) (s : Source) : Reading Command :=
  match fuel with
  | 0 => s.fail .openQuote
  | fuel + 1 =>
    let s := s.trim
    if bareWord s = "!" then (readPipeline fuel s.skip).map fun (c, s) => (.negated c, s)
    else
      (readStages fuel s).map fun (cs, s) =>
        (match cs with
          | [c] => c
          | _ => .pipeline cs, s)

/-- the pipelines after one of them, with `&&` and `||` between them -/
def readChain (fuel : Nat) (c : Command) (s : Source) : Reading Command :=
  match fuel with
  | 0 => s.fail .openQuote
  | fuel + 1 =>
    let s := s.trim
    if s.startsWith "&&" then
      (readPipeline fuel (s.skip 2).trimLines).bind fun (d, s) => readChain fuel (.andThen c d) s
    else if s.startsWith "||" then
      (readPipeline fuel (s.skip 2).trimLines).bind fun (d, s) => readChain fuel (.orElse c d) s
    else .ok (c, s)

/-- the commands of one line; none where there is none -/
def readLine (fuel : Nat) (s : Source) : Reading Command :=
  match fuel with
  | 0 => s.fail .openQuote
  | fuel + 1 =>
    let s := s.trim
    match s.rest with
    | [] | '\n' :: _ | ')' :: _ => .ok (.nothing, s)
    | ';' :: ';' :: _ => .ok (.nothing, s)
    | _ =>
      if bareWord s ∈ reservedWords then .ok (.nothing, s)
      else
        (readPipeline fuel s).bind fun (c, s) =>
          (readChain fuel c s).bind fun (c, s) =>
            let s := s.trim
            if s.startsWith ";;" then .ok (c, s)
            else if s.startsWith ";" || s.startsWith "&" then
              let first := if s.startsWith "&" then .background c else c
              (readLine fuel s.skip).map fun (d, s) =>
                (match d with
                  | .nothing => first
                  | _ => .sequence first d, s)
            else .ok (c, s)

/-- the commands of lines, up to what ends a list -/
def readList (fuel : Nat) (s : Source) : Reading Command :=
  match fuel with
  | 0 => s.fail .openQuote
  | fuel + 1 =>
    (readLine fuel s.trimLines).bind fun (c, s) =>
      let next := s.trimLines
      match s.trim.rest with
      | '\n' :: _ =>
        match next.rest with
        | [] | ')' :: _ | ';' :: _ => .ok (c, next)
        | _ =>
          if bareWord next ∈ reservedWords then .ok (c, next)
          else (readList fuel next).map fun (d, s) => (.sequence c d, s)
      | _ => .ok (c, s)

/-- a whole script -/
def readScript (fuel : Nat) (s : Source) : Reading Command :=
  match fuel with
  | 0 => s.fail .openQuote
  | fuel + 1 =>
    (readList fuel s).bind fun (c, s) =>
      if s.trimLines.rest = [] then .ok (c, s)
      else s.fail (.unexpected (describe s.trimLines) none)
end

/-- enough for every script of a length -/
def Source.fuel (s : Source) : Nat := 20 * (s.rest.length + 5)

/-- the commands of the next line, and the script after it; none at the end -/
def Source.nextLine? (s : Source) : Option (Reading Command) :=
  let s := s.trimLines
  if s.rest = [] then none
  else
    some ((readLine s.fuel s).bind fun (c, s') =>
      let next := s'.trim
      match next.rest with
      | [] | '\n' :: _ => .ok (c, next)
      | _ => next.fail (.unexpected (describe next) none))

end PromptDispatch.Machine.Shell

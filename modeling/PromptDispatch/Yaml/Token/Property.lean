import PromptDispatch.Text.Utf8
import PromptDispatch.Yaml.Token
import PromptDispatch.Yaml.Token.Quoted

/-!
# Anchors, tags and directives
-/

namespace PromptDispatch.Yaml.Property

/-! ## anchors and aliases -/

/-- the characters that may follow a name, blanks and breaks apart -/
def endsName (c : Char) : Bool := c ∈ ['?', ':', ',', ']', '}', '%', '@', '`']

/-- the name after `&` or `*` -/
def name? (c : Cursor) : Option (String × Cursor) :=
  let (name, c) := c.skip.takeWhile isNameChar
  if name = [] || !(c.atGap || (c.peek.map endsName).getD false) then none
  else some (String.ofList name, c)

/-! ## tags -/

def isUriChar (verbatim : Bool) (c : Char) : Bool :=
  isNameChar c ||
    c ∈ [';', '/', '?', ':', '@', '&', '=', '+', '$', '.', '%', '!', '~', '*', '\'', '(', ')'] ||
    (verbatim && c ∈ [',', '[', ']'])

/-- the bytes of the escapes `%…` that begin a text, and the rest -/
def escapedBytes : Nat → List Char → List UInt8 × List Char
  | 0, s => ([], s)
  | fuel + 1, s =>
    match s with
    | '%' :: h :: l :: r =>
      match Quoted.hexValue? h, Quoted.hexValue? l with
      | some a, some b =>
        let (bytes, r) := escapedBytes fuel r
        (UInt8.ofNat (a * 16 + b) :: bytes, r)
      | _, _ => ([], s)
    | _ => ([], s)

/-- a text with its escapes `%…` put in place; none if one is malformed -/
def unescape? : Nat → List Char → Option (List Char)
  | 0, _ => none
  | _, [] => some []
  | fuel + 1, c :: r =>
    if c = '%' then
      let (bytes, r) := escapedBytes r.length.succ (c :: r)
      if bytes = [] then none
      else (Text.decode? bytes).bind fun s => (unescape? fuel r).map (s ++ ·)
    else (unescape? fuel r).map (c :: ·)

/-- the characters of a tag from here on -/
def uri? (verbatim : Bool) (c : Cursor) : Option (List Char × Cursor) :=
  let (s, c) := c.takeWhile (isUriChar verbatim)
  (unescape? (s.length + 1) s).map fun s => (s, c)

/-- `!`, a name, and `!` if one follows -/
def handle? (c : Cursor) : Option (List Char × Cursor) :=
  if c.isAt '!' then
    let (name, c) := c.skip.takeWhile isNameChar
    if c.isAt '!' then some ('!' :: (name ++ ['!']), c.skip) else some ('!' :: name, c)
  else none

/-- a tag as its handle and its suffix; a tag written in full has no handle -/
def tagParts? (c : Cursor) : Option (List Char × List Char × Cursor) :=
  if c.peekAt 1 = some '<' then
    (uri? true (c.skip 2)).bind fun (suffix, c) =>
      if suffix = [] || !c.isAt '>' then none else some ([], suffix, c.skip)
  else
    (handle? c).bind fun (handle, c) =>
      (uri? false c).bind fun (suffix, c) =>
        if 1 < handle.length ∧ handle.getLast? = some '!' then
          if suffix = [] then none else some (handle, suffix, c)
        else
          let suffix := handle.drop 1 ++ suffix
          if suffix = [] then some ([], ['!'], c) else some (['!'], suffix, c)

/-- the tag that begins here -/
def tag? (flow : Bool) (c : Cursor) : Option (Token × Cursor) :=
  (tagParts? c).bind fun (handle, suffix, c) =>
    if c.atGap || (flow && c.isAt ',') then
      some (.tag (String.ofList handle) (String.ofList suffix), c)
    else none

/-! ## directives -/

def number? (c : Cursor) : Option (Nat × Cursor) :=
  let (digits, c) := c.takeWhile Char.isDigit
  if digits = [] || 9 < digits.length then none
  else some (digits.foldl (fun n d => n * 10 + (d.toNat - '0'.toNat)) 0, c)

def version? (c : Cursor) : Option (Token × Cursor) :=
  (number? (c.skipWhile isBlank)).bind fun (major, c) =>
    if c.isAt '.' then
      (number? c.skip).map fun (minor, c) => (.versionDirective major minor, c)
    else none

def tagStart? (c : Cursor) : Option (Token × Cursor) :=
  (handle? (c.skipWhile isBlank)).bind fun (handle, c) =>
    if (handle ≠ ['!'] && handle.getLast? ≠ some '!') || !c.atBlank then none
    else
      (uri? true (c.skipWhile isBlank)).bind fun (start, c) =>
        if start = [] || !c.atGap then none
        else some (.tagDirective (String.ofList handle) (String.ofList start), c)

/-- the directive whose `%` stands here, with the rest of its line -/
def directive? (c : Cursor) : Option (Token × Cursor) :=
  let (name, c) := c.skip.takeWhile isNameChar
  if name = [] || !c.atGap then none
  else
    let token :=
      if name = "YAML".toList then version? c
      else if name = "TAG".toList then tagStart? c
      else none
    token.bind fun (t, c) =>
      let c := c.skipComment
      if c.atEnd then some (t, c.skipBreak) else none

end PromptDispatch.Yaml.Property

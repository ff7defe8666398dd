import PromptDispatch.Yaml.Node
import PromptDispatch.Yaml.Token.Lexer

/-!
# Documents

`Document.read?` reads a text with at most one document.  An alias stands for a copy of the node
that has its anchor; the anchor must be on a node that has ended before the alias.  A document in
which aliases stand for too many copies is refused.
-/

namespace PromptDispatch.Yaml

/-! ## anchors -/

/-- a node that has an anchor and has ended, with the number of copies that its aliases stand for -/
structure Anchored where
  node : Node
  copies : Nat

structure Anchors where
  /-- names with the number of their node, the last one first -/
  names : List (String × Nat) := []
  /-- the nodes that have ended, by number -/
  nodes : List (Nat × Anchored) := []
  next : Nat := 0
  /-- the starts, ends, scalars and aliases passed so far -/
  events : Nat := 0
  /-- the copies that the aliases passed so far stand for -/
  copies : Nat := 0

namespace Anchors

/-- a name for a node that begins; its number -/
def declare (a : Anchors) (name : String) : Nat × Anchors :=
  (a.next, { a with names := (name, a.next) :: a.names, next := a.next + 1 })

/-- the node with a number has ended; before it there were `copies` -/
def define (a : Anchors) (number : Nat) (n : Node) (copies : Nat) : Anchors :=
  { a with nodes := (number, ⟨n, a.copies - copies⟩) :: a.nodes }

/-- `n` more starts, ends, scalars or aliases -/
def pass (a : Anchors) (n : Nat) : Anchors := { a with events := a.events + n }

/-- the node that an alias stands for -/
def resolve? (a : Anchors) (name : String) : Option (Node × Anchors) :=
  (a.names.lookup name).bind fun n => (a.nodes.lookup n).map fun x =>
    (x.node, { a.pass 1 with copies := a.copies + x.copies + 1 })

/-- a document may have a hundred copies for each of its parts -/
def fits (a : Anchors) : Bool := a.copies ≤ 100 * a.events

end Anchors

/-! ## directives -/

/-- the handles of tags and what they stand for -/
abbrev TagHandles := List (String × String)

def defaultHandles : TagHandles := [("!", "!"), ("!!", "tag:yaml.org,2002:")]

structure Directives where
  version : Option (Nat × Nat) := none
  handles : TagHandles := []

/-- reads directives; none if one is repeated or of an unknown version -/
def Directives.read? (d : Directives) : List Token → Option (Directives × List Token)
  | .versionDirective major minor :: r =>
    if d.version.isSome || major ≠ 1 || (minor ≠ 1 && minor ≠ 2) then none
    else Directives.read? { d with version := some (major, minor) } r
  | .tagDirective handle start :: r =>
    if (d.handles.lookup handle).isSome then none
    else Directives.read? { d with handles := (handle, start) :: d.handles } r
  | r => some (d, r)

/-- the tag of a handle and a suffix -/
def tagOf? (handles : TagHandles) (handle suffix : String) : Option String :=
  if handle = "" then some suffix else ((handles ++ defaultHandles).lookup handle).map (· ++ suffix)

/-! ## properties -/

/-- the anchor and the tag before a node, in either order -/
structure Properties where
  anchor : Option String := none
  tag : Option String := none

def Properties.isNone (p : Properties) : Bool := p.anchor.isNone && p.tag.isNone

def Properties.read? (handles : TagHandles) : List Token → Option (Properties × List Token)
  | .anchor name :: .tag handle suffix :: r =>
    (tagOf? handles handle suffix).map fun tag => ({ anchor := some name, tag := some tag }, r)
  | .anchor name :: r => some ({ anchor := some name }, r)
  | .tag handle suffix :: .anchor name :: r =>
    (tagOf? handles handle suffix).map fun tag => ({ anchor := some name, tag := some tag }, r)
  | .tag handle suffix :: r => (tagOf? handles handle suffix).map fun tag => ({ tag := some tag }, r)
  | r => some ({}, r)

/-- a node's tag: on a scalar, a lone `!` is none -/
def scalarTag (tag : Option String) : Option String := tag.filter (· ≠ "!")

/-! ## nodes -/

/-- what has been read, the rest of the tokens, and the anchors after it -/
abbrev Parsed (α : Type) := Option (α × List Token × Anchors)

/-- a node is absent before one of these tokens -/
def endsBlockItem : List Token → Bool
  | .blockEntry :: _ | .blockEnd :: _ => true
  | _ => false

def endsIndentlessItem : List Token → Bool
  | .blockEntry :: _ | .key :: _ | .value :: _ | .blockEnd :: _ => true
  | _ => false

def endsBlockEntry : List Token → Bool
  | .key :: _ | .value :: _ | .blockEnd :: _ => true
  | _ => false

def endsFlowPair : List Token → Bool
  | .flowEntry :: _ | .flowSequenceEnd :: _ => true
  | _ => false

def endsFlowEntry : List Token → Bool
  | .flowEntry :: _ | .flowMappingEnd :: _ => true
  | _ => false

/-- past the comma between the entries of a flow collection -/
def afterComma? (first : Bool) (ts : List Token) : Option (List Token) :=
  if first then some ts
  else
    match ts with
    | .flowEntry :: r => some r
    | _ => none

mutual
/-- a node, or an empty one where it is absent -/
def orEmpty (handles : TagHandles) (fuel : Nat) (absent : Bool) (block indentless : Bool)
    (ts : List Token) (a : Anchors) : Parsed Node :=
  match fuel with
  | 0 => none
  | fuel + 1 =>
    if absent then some (.empty, ts, a.pass 1) else node handles fuel block indentless ts a

def node (handles : TagHandles) (fuel : Nat) (block indentless : Bool) (ts : List Token)
    (a : Anchors) : Parsed Node :=
  match fuel with
  | 0 => none
  | fuel + 1 =>
    match ts with
    | .alias name :: r => (a.resolve? name).map fun (n, a) => (n, r, a)
    | _ =>
      (Properties.read? handles ts).bind fun (p, ts) =>
        match p.anchor with
        | none => content handles fuel block indentless p ts a
        | some name =>
          let copies := a.copies
          let (number, a) := a.declare name
          (content handles fuel block indentless p ts a).map fun (n, ts, a) =>
            (n, ts, a.define number n copies)

/-- a node after its properties -/
def content (handles : TagHandles) (fuel : Nat) (block indentless : Bool) (p : Properties)
    (ts : List Token) (a : Anchors) : Parsed Node :=
  match fuel with
  | 0 => none
  | fuel + 1 =>
    match ts with
    | .blockEntry :: _ =>
      if indentless then
        (indentlessItems handles fuel [] ts a).map fun (items, ts, a) =>
          (.sequence items p.tag, ts, a.pass 2)
      else if p.isNone then none else some (.scalar "" .plain p.tag, ts, a.pass 1)
    | .scalar text style :: r => some (.scalar text style (scalarTag p.tag), r, a.pass 1)
    | .flowSequenceStart :: r =>
      (flowItems handles fuel true [] r a).map fun (items, ts, a) => (.sequence items p.tag, ts, a.pass 2)
    | .flowMappingStart :: r =>
      (flowEntries handles fuel true [] r a).map fun (entries, ts, a) =>
        (.mapping entries p.tag, ts, a.pass 2)
    | .blockSequenceStart :: r =>
      if block then
        (blockItems handles fuel [] r a).map fun (items, ts, a) => (.sequence items p.tag, ts, a.pass 2)
      else if p.isNone then none else some (.scalar "" .plain p.tag, ts, a.pass 1)
    | .blockMappingStart :: r =>
      if block then
        (blockEntries handles fuel [] r a).map fun (entries, ts, a) =>
          (.mapping entries p.tag, ts, a.pass 2)
      else if p.isNone then none else some (.scalar "" .plain p.tag, ts, a.pass 1)
    | _ => if p.isNone then none else some (.scalar "" .plain p.tag, ts, a.pass 1)

def blockItems (handles : TagHandles) (fuel : Nat) (before : List Node) (ts : List Token)
    (a : Anchors) : Parsed (List Node) :=
  match fuel with
  | 0 => none
  | fuel + 1 =>
    match ts with
    | .blockEntry :: r =>
      (orEmpty handles fuel (endsBlockItem r) true false r a).bind fun (n, ts, a) =>
        blockItems handles fuel (n :: before) ts a
    | .blockEnd :: r => some (before.reverse, r, a)
    | _ => none

def indentlessItems (handles : TagHandles) (fuel : Nat) (before : List Node) (ts : List Token)
    (a : Anchors) : Parsed (List Node) :=
  match fuel with
  | 0 => none
  | fuel + 1 =>
    match ts with
    | .blockEntry :: r =>
      (orEmpty handles fuel (endsIndentlessItem r) true false r a).bind fun (n, ts, a) =>
        indentlessItems handles fuel (n :: before) ts a
    | _ => some (before.reverse, ts, a)

def blockEntries (handles : TagHandles) (fuel : Nat) (before : List (Node × Node))
    (ts : List Token) (a : Anchors) : Parsed (List (Node × Node)) :=
  match fuel with
  | 0 => none
  | fuel + 1 =>
    match ts with
    | .blockEnd :: r => some (before.reverse, r, a)
    | .key :: r =>
      (orEmpty handles fuel (endsBlockEntry r) true true r a).bind fun (k, ts, a) =>
        (blockValue handles fuel ts a).bind fun (v, ts, a) =>
          blockEntries handles fuel ((k, v) :: before) ts a
    | _ => none

/-- the value of a block entry; an empty one where there is no colon -/
def blockValue (handles : TagHandles) (fuel : Nat) (ts : List Token) (a : Anchors) : Parsed Node :=
  match fuel with
  | 0 => none
  | fuel + 1 =>
    match ts with
    | .value :: r => orEmpty handles fuel (endsBlockEntry r) true true r a
    | _ => some (.empty, ts, a.pass 1)

def flowItems (handles : TagHandles) (fuel : Nat) (first : Bool) (before : List Node)
    (ts : List Token) (a : Anchors) : Parsed (List Node) :=
  match fuel with
  | 0 => none
  | fuel + 1 =>
    match ts with
    | .flowSequenceEnd :: r => some (before.reverse, r, a)
    | _ =>
      (afterComma? first ts).bind fun ts =>
        match ts with
        | .flowSequenceEnd :: r => some (before.reverse, r, a)
        | .key :: r =>
          (flowPair handles fuel r a).bind fun (n, ts, a) =>
            flowItems handles fuel false (n :: before) ts a
        | _ =>
          (node handles fuel false false ts a).bind fun (n, ts, a) =>
            flowItems handles fuel false (n :: before) ts a

/-- a mapping of one entry inside of a flow sequence, after the token of its key.  An absent key takes
the next token with it -/
def flowPair (handles : TagHandles) (fuel : Nat) (ts : List Token) (a : Anchors) : Parsed Node :=
  match fuel with
  | 0 => none
  | fuel + 1 =>
    let absent :=
      match ts with
      | .value :: _ => true
      | _ => endsFlowPair ts
    (orEmpty handles fuel absent false false (if absent then ts.drop 1 else ts) a).bind
      fun (k, ts, a) =>
        match ts with
        | .value :: r =>
          (orEmpty handles fuel (endsFlowPair r) false false r a).map fun (v, ts, a) =>
            (.mapping [(k, v)] none, ts, a.pass 2)
        | _ => some (.mapping [(k, .empty)] none, ts, a.pass 3)

def flowEntries (handles : TagHandles) (fuel : Nat) (first : Bool) (before : List (Node × Node))
    (ts : List Token) (a : Anchors) : Parsed (List (Node × Node)) :=
  match fuel with
  | 0 => none
  | fuel + 1 =>
    match ts with
    | .flowMappingEnd :: r => some (before.reverse, r, a)
    | _ =>
      (afterComma? first ts).bind fun ts =>
        match ts with
        | .flowMappingEnd :: r => some (before.reverse, r, a)
        | .key :: r =>
          let absent :=
            match r with
            | .value :: _ => true
            | _ => endsFlowEntry r
          (orEmpty handles fuel absent false false r a).bind fun (k, ts, a) =>
            (flowValue handles fuel ts a).bind fun (v, ts, a) =>
              flowEntries handles fuel false ((k, v) :: before) ts a
        | _ =>
          (node handles fuel false false ts a).bind fun (k, ts, a) =>
            flowEntries handles fuel false ((k, .empty) :: before) ts (a.pass 1)

/-- the value of a flow entry; an empty one where there is no colon -/
def flowValue (handles : TagHandles) (fuel : Nat) (ts : List Token) (a : Anchors) : Parsed Node :=
  match fuel with
  | 0 => none
  | fuel + 1 =>
    match ts with
    | .value :: r => orEmpty handles fuel (endsFlowEntry r) false false r a
    | _ => some (.empty, ts, a.pass 1)
end

/-! ## documents -/

/-- the node of a document, whose tokens end at a mark or with the text -/
def documentNode (handles : TagHandles) (ts : List Token) : Parsed Node :=
  match ts with
  | .versionDirective _ _ :: _ | .tagDirective _ _ :: _ | .documentStart :: _ | .documentEnd :: _
  | .streamEnd :: _ | [] => some (.empty, ts, {})
  | _ => node handles (4 * ts.length + 4) true false ts {}

/-- past the marks `...`; whether the text ends after them -/
def onlyEnd : List Token → Bool
  | .documentEnd :: r => onlyEnd r
  | [.streamEnd] => true
  | _ => false

def Document.ofTokens? (ts : List Token) : Option (Option Node) :=
  match ts with
  | [.streamEnd] => some none
  | .documentEnd :: _ => none
  | .versionDirective _ _ :: _ | .tagDirective _ _ :: _ | .documentStart :: _ =>
    (Directives.read? {} ts).bind fun (d, ts) =>
      match ts with
      | .documentStart :: ts =>
        (documentNode d.handles ts).bind fun (n, ts, a) =>
          if onlyEnd ts && a.fits then some (some n) else none
      | _ => none
  | _ =>
    (documentNode [] ts).bind fun (n, ts, a) =>
      if onlyEnd ts && a.fits then some (some n) else none

/-- the node of the one document in a text, or `some none` where the text has no document; none if
it is no YAML or has more than one -/
def Document.read? (s : List Char) : Option (Option Node) :=
  (Token.scan? s).bind Document.ofTokens?

end PromptDispatch.Yaml

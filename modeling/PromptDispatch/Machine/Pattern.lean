/-!
# Patterns of lines

A basic regular expression: characters, `.`, sets in brackets, each perhaps repeated by `*`, and the
anchors `^` and `$`.
-/

namespace PromptDispatch.Machine

inductive Atom where
  | char (c : Char)
  | any
  | set (negated : Bool) (ranges : List (Char × Char))
  deriving DecidableEq, Repr

def Atom.admits (a : Atom) (c : Char) : Bool :=
  match a with
  | .char x => x = c
  | .any => true
  | .set negated ranges => negated != ranges.any fun r => r.1 ≤ c && c ≤ r.2

structure Pattern where
  /-- atoms with whether they may be repeated -/
  atoms : List (Atom × Bool)
  fromStart : Bool := false
  toEnd : Bool := false
  deriving Repr

namespace Pattern

/-- the ranges of a set up to its bracket -/
def ranges : Nat → Bool → List Char → List (Char × Char) × List Char
  | 0, _, s => ([], s)
  | _, _, [] => ([], [])
  | fuel + 1, first, c :: r =>
    if c = ']' && !first then ([], r)
    else
      let (last, r) :=
        match r with
        | '-' :: d :: r' => if d = ']' then (c, r) else (d, r')
        | _ => (c, r)
      let (rs, rest) := ranges fuel false r
      ((c, last) :: rs, rest)

/-- an atom and the characters after it -/
def atom (c : Char) (r : List Char) : Atom × List Char :=
  match c, r with
  | '.', _ => (.any, r)
  | '\\', x :: r => (.char x, r)
  | '[', '^' :: r =>
    let (rs, rest) := ranges r.length true r
    (.set true rs, rest)
  | '[', _ =>
    let (rs, rest) := ranges r.length true r
    (.set false rs, rest)
  | _, _ => (.char c, r)

/-- the atoms of an expression, and whether it ends with an anchor -/
def readAtoms : Nat → List Char → List (Atom × Bool) × Bool
  | 0, _ => ([], false)
  | _, [] => ([], false)
  | _, ['$'] => ([], true)
  | fuel + 1, c :: r =>
    let (a, r) := atom c r
    match r with
    | '*' :: r =>
      let (as, anchored) := readAtoms fuel r
      ((a, true) :: as, anchored)
    | _ =>
      let (as, anchored) := readAtoms fuel r
      ((a, false) :: as, anchored)

def ofText (s : List Char) : Pattern :=
  let (fromStart, s) :=
    match s with
    | '^' :: r => (true, r)
    | _ => (false, s)
  let (atoms, toEnd) := readAtoms (s.length + 1) s
  { atoms, fromStart, toEnd }

/-- the characters of a text, each standing for itself -/
def literal (s : List Char) : Pattern := { atoms := s.map fun c => (.char c, false) }

/-- what is left of a text after characters that an atom admits, from none of them to all -/
def afterRun (a : Atom) : List Char → List (List Char)
  | [] => [[]]
  | c :: r => (c :: r) :: if a.admits c then afterRun a r else []

def matchAtoms (toEnd : Bool) : List (Atom × Bool) → List Char → Bool
  | [], s => !toEnd || s.isEmpty
  | (a, true) :: as, s => (afterRun a s).any (matchAtoms toEnd as)
  | (_, false) :: _, [] => false
  | (a, false) :: as, c :: r => a.admits c && matchAtoms toEnd as r

/-- the atoms match from some place of a text on -/
def matchLater (p : Pattern) : List Char → Bool
  | [] => matchAtoms p.toEnd p.atoms []
  | c :: r => matchAtoms p.toEnd p.atoms (c :: r) || p.matchLater r

/-- the text or a part of it -/
def isIn (p : Pattern) (s : List Char) : Bool :=
  if p.fromStart then matchAtoms p.toEnd p.atoms s else p.matchLater s

end Pattern

end PromptDispatch.Machine

import PromptDispatch.Machine.Printf

/-!
# Arithmetic of scripts

Expressions of integers with the operators of C; a name stands for the number in its variable, and
zero where there is none.
-/

namespace PromptDispatch.Machine.Shell.Arithmetic

def isNameStart (c : Char) : Bool := c.isAlpha || c = '_'

def isNameChar (c : Char) : Bool := c.isAlphanum || c = '_'

def ofBool (b : Bool) : Int := if b then 1 else 0

/-- the binary operators of each level, the loosest first -/
def levels : List (List (String × (Int → Int → Option Int))) :=
  [[("||", fun a b => some (ofBool (a ≠ 0 || b ≠ 0)))],
    [("&&", fun a b => some (ofBool (a ≠ 0 && b ≠ 0)))],
    [("==", fun a b => some (ofBool (a = b))), ("!=", fun a b => some (ofBool (a ≠ b)))],
    [("<=", fun a b => some (ofBool (a ≤ b))), (">=", fun a b => some (ofBool (b ≤ a))),
      ("<", fun a b => some (ofBool (a < b))), (">", fun a b => some (ofBool (b < a)))],
    [("+", fun a b => some (a + b)), ("-", fun a b => some (a - b))],
    [("*", fun a b => some (a * b)),
      ("/", fun a b => if b = 0 then none else some (a.tdiv b)),
      ("%", fun a b => if b = 0 then none else some (a.tmod b))]]

def skip (s : List Char) : List Char := s.dropWhile fun c => c = ' ' || c = '\t' || c = '\n'

/-- the operator of a level that a text begins with -/
def operator? (ops : List (String × (Int → Int → Option Int))) (s : List Char) :
    Option ((Int → Int → Option Int) × List Char) :=
  (ops.find? fun o => o.1.toList.isPrefixOf s).map fun o => (o.2, s.drop o.1.length)

mutual
/-- the operands of a level and the operators between them -/
def level (look : String → Int) (fuel : Nat) (ls : List (List (String × (Int → Int → Option Int))))
    (s : List Char) : Option (Int × List Char) :=
  match fuel with
  | 0 => none
  | fuel + 1 =>
    match ls with
    | [] => operand look fuel (skip s)
    | ops :: inner =>
      (level look fuel inner s).bind fun (a, s) => more look fuel ops inner a (skip s)

def more (look : String → Int) (fuel : Nat) (ops : List (String × (Int → Int → Option Int)))
    (inner : List (List (String × (Int → Int → Option Int)))) (a : Int) (s : List Char) :
    Option (Int × List Char) :=
  match fuel with
  | 0 => none
  | fuel + 1 =>
    match operator? ops s with
    | none => some (a, s)
    | some (f, s) =>
      (level look fuel inner s).bind fun (b, s) =>
        (f a b).bind fun c => more look fuel ops inner c (skip s)

def operand (look : String → Int) (fuel : Nat) (s : List Char) : Option (Int × List Char) :=
  match fuel with
  | 0 => none
  | fuel + 1 =>
    match s with
    | '(' :: r =>
      (level look fuel levels r).bind fun (a, s) =>
        match skip s with
        | ')' :: r => some (a, r)
        | _ => none
    | '-' :: r => (operand look fuel (skip r)).map fun (a, s) => (-a, s)
    | '+' :: r => operand look fuel (skip r)
    | '!' :: r => (operand look fuel (skip r)).map fun (a, s) => (ofBool (a = 0), s)
    | c :: _ =>
      if c.isDigit then
        let word := s.takeWhile Char.isAlphanum
        (Conversion.integer? (String.ofList word)).map fun n => (n, s.drop word.length)
      else if isNameStart c then
        let name := s.takeWhile isNameChar
        some (look (String.ofList name), s.drop name.length)
      else none
    | [] => none
end

/-- the number of an expression; none if it is malformed or divides by zero -/
def value? (look : String → Int) (s : List Char) : Option Int :=
  if skip s = [] then some 0
  else
    (level look (20 * (s.length + 2)) levels s).bind fun (n, r) =>
      if skip r = [] then some n else none

end PromptDispatch.Machine.Shell.Arithmetic

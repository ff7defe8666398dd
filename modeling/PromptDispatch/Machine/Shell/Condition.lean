import PromptDispatch.Machine.Shell.State

/-!
# Conditions on words and files

The expressions of `test`: one word, an operator with one or two operands, and these with `!`, `-a`
and `-o`.
-/

namespace PromptDispatch.Machine.Shell.Condition

/-- why an expression has no truth value -/
inductive Fault where
  | notNumber (word : String)
  | unknownOperator (word : String)
  deriving DecidableEq, Repr

def Fault.message : Fault → String
  | .notNumber word => s!"Illegal number: {word}"
  | .unknownOperator word => s!"{word}: unexpected operator"

def number (w : String) : Except Fault Int :=
  match Conversion.integer? w with
  | some n => .ok n
  | none => .error (.notNumber w)

def unary (files : Files) (terminal : Nat → Bool) (op w : String) : Except Fault Bool :=
  match op with
  | "-n" => .ok (w ≠ "")
  | "-z" => .ok (w = "")
  | "-e" | "-r" | "-w" => .ok (files.pathExists w)
  | "-f" => .ok (files.entry w matches .ok (.file _) | .ok (.program _))
  | "-d" => .ok (files.entry w matches .ok .directory)
  | "-x" => .ok (files.entry w matches .ok (.program _) | .ok .directory)
  | "-s" => .ok ((files.entry w).toOption.any fun e =>
      match e with
      | .file b => b ≠ []
      | _ => true)
  | "-t" => (number w).map fun n => terminal n.toNat
  | _ => .error (.unknownOperator op)

def compare (op : String) (a b : Int) : Option Bool :=
  match op with
  | "-eq" => some (a = b)
  | "-ne" => some (a ≠ b)
  | "-lt" => some (a < b)
  | "-le" => some (a ≤ b)
  | "-gt" => some (b < a)
  | "-ge" => some (b ≤ a)
  | _ => none

def binary (a op b : String) : Except Fault Bool :=
  match op with
  | "=" | "==" => .ok (a = b)
  | "!=" => .ok (a ≠ b)
  | "<" => .ok (a < b)
  | ">" => .ok (b < a)
  | _ =>
    if (compare op 0 0).isSome then
      (number a).bind fun m => (number b).map fun n => (compare op m n).getD false
    else .error (.unknownOperator op)

/-- the words before and after the first that is `op` -/
def splitAt? (op : String) (ws : List String) : Option (List String × List String) :=
  let before := ws.takeWhile (· ≠ op)
  if before.length < ws.length then some (before, ws.drop (before.length + 1)) else none

/-- the truth value of an expression -/
def value (files : Files) (terminal : Nat → Bool) : Nat → List String → Except Fault Bool
  | 0, _ => .ok false
  | fuel + 1, ws =>
    match ws with
    | [] => .ok false
    | [w] => .ok (w ≠ "")
    | [op, w] => if op = "!" then .ok (w = "") else unary files terminal op w
    | [a, op, b] =>
      if a = "!" ∧ op ≠ "=" ∧ op ≠ "!=" then (value files terminal fuel [op, b]).map (!·)
      else if op = "-a" then .ok (a ≠ "" && b ≠ "")
      else if op = "-o" then .ok (a ≠ "" || b ≠ "")
      else binary a op b
    | _ =>
      match splitAt? "-o" ws, splitAt? "-a" ws with
      | some (a, b), _ =>
        (value files terminal fuel a).bind fun x =>
          (value files terminal fuel b).map fun y => x || y
      | none, some (a, b) =>
        (value files terminal fuel a).bind fun x =>
          (value files terminal fuel b).map fun y => x && y
      | none, none =>
        match ws with
        | "!" :: r => (value files terminal fuel r).map (!·)
        | w :: _ => .error (.unknownOperator w)
        | [] => .ok false

end PromptDispatch.Machine.Shell.Condition

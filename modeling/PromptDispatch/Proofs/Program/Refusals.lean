import PromptDispatch.Main
import PromptDispatch.Proofs.Arguments.Faults
import PromptDispatch.Proofs.Arguments.Refusals

/-!
# What the program exits with after a command line

The code 2 tells that a result has the wrong shape (`Misshapen`), and it is the code of a command
line with a mistake too.  The code 1 is only had by command lines that are carried out.

* `exitCode_eq_two_iff`     what the code 2 tells;
* `runArguments_of_error`   the program itself, when it carries nothing out;
* `exit_of_refusal`         the exit codes of command lines that are refused.
-/

namespace PromptDispatch.Program

/-- a result does not match its schema, or a stream could not be decoded -/
def Misshapen (o : Outside) (q : Request) : Prop :=
  (∃ label problems, (outcome o q).fault = some (.failure (.violation label problems))) ∨
    ∃ line text fault, (outcome o q).fault = some (.failure (.decode line text fault))

theorem exitCode_outcome_iff (o : Outside) (q : Request) :
    (outcome o q).exitCode = 2 ↔ Misshapen o q := by
  unfold Outcome.exitCode Misshapen
  generalize (outcome o q).fault = fault
  cases fault with
  | none => simp
  | some fault =>
    cases fault with
    | failure f => cases f <;> simp [Fault.exitCode, Failure.exitCode]
    | _ => simp [Fault.exitCode]

variable {args : List String} {fault : UsageFault}

theorem exitCode_of_ok (o : Outside) {q : Request} (h : Request.ofArguments args = .ok q) :
    exitCode o args = (outcome o q).exitCode := by
  rw [exitCode, reply, h]
  rfl

theorem exitCode_refusal (fault : UsageFault) :
    (refusal fault).exitCode = if fault.IsMistake then 2 else 0 := by
  rw [← fault.exitCode_eq]
  cases fault <;> rfl

theorem exitCode_of_error (o : Outside) (h : Request.ofArguments args = .error fault) :
    exitCode o args = if fault.IsMistake then 2 else 0 := by
  rw [exitCode, reply, h]
  exact exitCode_refusal fault

theorem exitCode_eq_two_iff (o : Outside) (args : List String) :
    exitCode o args = 2 ↔
      (∃ fault, Request.ofArguments args = .error fault ∧ fault.IsMistake) ∨
        ∃ q, Request.ofArguments args = .ok q ∧ Misshapen o q := by
  cases h : Request.ofArguments args with
  | ok q =>
    rw [exitCode_of_ok o h, exitCode_outcome_iff]
    simp
  | error fault =>
    rw [exitCode_of_error o h]
    simp

/-- What is not carried out asks for nothing: the program tells what was wrong, and exits with the
same code wherever it runs. -/
theorem runArguments_of_error (o : Outside) (h : Request.ofArguments args = .error fault) :
    Main.runArguments args = do
      Main.tell (refusal fault)
      return UInt32.ofNat (exitCode o args) := by
  have houtside : Main.outsideOf args = pure (Main.outside {} [] []) := by
    rw [Main.outsideOf, h]
  have hreply (o : Outside) : reply o args = refusal fault := by
    rw [reply, h]
  have hcode : exitCode (Main.outside {} [] []) args = exitCode o args := by
    rw [exitCode, exitCode, hreply, hreply]
  rw [Main.runArguments, houtside, ← hcode, ← hreply (Main.outside {} [] [])]
  rfl

/-- **A command line that is refused exits with 2 or, if it asks about the program, with 0**, and
never with 1.  Whatever comes before and after it, a mistake is refused, and with 2 if no argument
asks.  So 2 is the code of the mistakes and of the results of the wrong shape, and of nothing
else. -/
theorem exit_of_refusal (o : Outside) (args : List String) :
    (∀ fault, Request.ofArguments args = .error fault →
      exitCode o args = if fault.IsMistake then 2 else 0) ∧
      (WrongLine args → ∃ fault, Request.ofArguments args = .error fault) ∧
      (WrongLine args → (∀ w ∈ args, ¬AsksForHelp w) → exitCode o args = 2) ∧
      (exitCode o args = 1 → ∃ q, Request.ofArguments args = .ok q) ∧
      (exitCode o args = 2 ↔
        (∃ fault, Request.ofArguments args = .error fault ∧ fault.IsMistake) ∨
          ∃ q, Request.ofArguments args = .ok q ∧ Misshapen o q) := by
  have hrefused (hwrong : WrongLine args) : ∃ fault, Request.ofArguments args = .error fault := by
    cases h : Request.ofArguments args with
    | ok q => exact absurd h hwrong.not_ok
    | error fault => exact ⟨fault, rfl⟩
  refine ⟨fun fault h => exitCode_of_error o h, hrefused, fun hwrong hargs => ?_,
    fun hcode => ?_, exitCode_eq_two_iff o args⟩
  · obtain ⟨fault, h⟩ := hrefused hwrong
    rw [exitCode_of_error o h, if_pos (isMistake_of_ofArguments hargs h)]
  · cases h : Request.ofArguments args with
    | ok q => exact ⟨q, rfl⟩
    | error fault =>
      rw [exitCode_of_error o h] at hcode
      split at hcode <;> cases hcode

/-- a run without a prompt -/
theorem exit_of_refusal_missing :
    let o : Outside :=
      { pathExists := fun _ => false, readFile := fun _ => .error .notFound, input := .ok ""
        vars := [], surroundings := fun _ => { spawn := fun _ => .error .notFound } }
    WrongLine ["run", "claude"] ∧ (∀ w ∈ ["run", "claude"], ¬AsksForHelp w) ∧
      exitCode o ["run", "claude"] = 2 := by
  intro o
  have hpath : CommandPath ["run"] runSpec := .command .start rfl
  have hwrong : WrongLine ["run", "claude"] := .missingWord hpath rfl (by decide)
  have hargs : ∀ w ∈ ["run", "claude"], ¬AsksForHelp w := by decide
  obtain ⟨-, -, hcode, -⟩ := exit_of_refusal o ["run", "claude"]
  exact ⟨hwrong, hargs, hcode hwrong hargs⟩

theorem not_exitCode_one_of_mistake :
    ¬∀ (o : Outside) (args : List String) (fault : UsageFault),
      Request.ofArguments args = .error fault → fault.IsMistake → exitCode o args = 1 := by
  intro h
  let o : Outside :=
    { pathExists := fun _ => false, readFile := fun _ => .error .notFound, input := .ok ""
      vars := [], surroundings := fun _ => { spawn := fun _ => .error .notFound } }
  have hfault : Request.ofArguments ["run", "claude"] = .error .missingWord := by decide +kernel
  have hone := h o ["run", "claude"] .missingWord hfault (by decide)
  rw [exitCode_of_error o hfault] at hone
  cases hone

end PromptDispatch.Program

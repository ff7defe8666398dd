/-!
# How a process ended

A status is the number that waiting for a process reports: the low seven bits name a signal, or are
zero for an exit; the next bit tells of a core dump and the byte above it is the exit code.
-/

namespace PromptDispatch

/-- the number that waiting for a process reports -/
structure WaitStatus where
  word : UInt32
  deriving DecidableEq, Repr, Inhabited

namespace WaitStatus

def ofExit (code : Nat) : WaitStatus := ⟨UInt32.ofNat (code % 256 * 256)⟩

def ofSignal (signal : Nat) : WaitStatus := ⟨UInt32.ofNat (signal % 128)⟩

def lowBits (s : WaitStatus) : Nat := s.word.toNat % 128

def coreDumped (s : WaitStatus) : Bool := s.word.toNat / 128 % 2 == 1

def upperByte (s : WaitStatus) : Nat := s.word.toNat / 256 % 256

/-- an exit with code zero -/
def success (s : WaitStatus) : Bool := s.word == 0

/-- the names of the signals from 1 on -/
def signalNames : List String :=
  ["HUP", "INT", "QUIT", "ILL", "TRAP", "ABRT", "BUS", "FPE", "KILL", "USR1", "SEGV", "USR2", "PIPE",
    "ALRM", "TERM", "STKFLT", "CHLD", "CONT", "STOP", "TSTP", "TTIN", "TTOU", "URG", "XCPU", "XFSZ",
    "VTALRM", "PROF", "WINCH", "IO", "PWR", "SYS"]

def signalText (n : Nat) : String :=
  match signalNames[n - 1]? with
  | some name => if n = 0 then toString n else s!"{n} (SIG{name})"
  | none => toString n

/-- lower-case hexadecimal digits -/
def hexText (n : Nat) : String := String.ofList (Nat.toDigits 16 n)

def text (s : WaitStatus) : String :=
  let low := s.lowBits
  if low = 0 then s!"exit status: {s.upperByte}"
  else if low ≠ 127 then
    s!"signal: {signalText low}" ++ if s.coreDumped then " (core dumped)" else ""
  else if s.word.toNat % 256 = 127 then
    s!"stopped (not terminated) by signal: {signalText s.upperByte}"
  else if s.word = 0xFFFF then "continued (WIFCONTINUED)"
  else s!"unrecognised wait status: {s.word.toInt32.toInt} 0x{hexText s.word.toNat}"

end WaitStatus

end PromptDispatch

import PromptDispatch.Decimal.Layout

/-!
# Timeouts and instants

A timeout counts seconds and nanoseconds upwards from zero; an instant counts them from a clock's
origin, in 64 bits with a sign.  `Instant.after?` adds one to the other where the sum is an instant.
-/

namespace PromptDispatch

/-- a span of time below `2 ^ 64` seconds -/
structure Timeout where
  seconds : Nat
  nanos : Nat := 0
  seconds_lt : seconds < UInt64.size := by decide
  nanos_lt : nanos < 1000000000 := by decide
  deriving DecidableEq, Repr

namespace Timeout

def ofSeconds (n : UInt64) : Timeout := { seconds := n.toNat, seconds_lt := n.toNat_lt }

instance : Inhabited Timeout := ⟨{ seconds := 0 }⟩

/-- a span of which the parts may be too large, cut to its range -/
def ofParts (seconds nanos : Nat) : Timeout where
  seconds := seconds % UInt64.size
  nanos := nanos % 1000000000
  seconds_lt := Nat.mod_lt _ (by decide)
  nanos_lt := Nat.mod_lt _ (by decide)

/-- the seconds as a binary64 number -/
def secondsNumber (t : Timeout) : Binary64 :=
  (Binary64.ofNat t.seconds).add ((Binary64.ofNat t.nanos).div (.ofNat 1000000000))

def secondsText (t : Timeout) : String := String.ofList (Layout.plain.text t.secondsNumber)

/-- a whole number and the digits after the point, without zeros at their end -/
def decimalText (whole part places : Nat) : String :=
  let digits := Nat.toDigits 10 part
  let padded := List.replicate (places - digits.length) '0' ++ digits
  match (padded.reverse.dropWhile (· = '0')).reverse with
  | [] => toString whole
  | ds => toString whole ++ String.ofList ('.' :: ds)

/-- the exact span in the largest unit of which it has at least one -/
def unitText (t : Timeout) : String :=
  if 0 < t.seconds then decimalText t.seconds t.nanos 9 ++ "s"
  else if 1000000 ≤ t.nanos then decimalText (t.nanos / 1000000) (t.nanos % 1000000) 6 ++ "ms"
  else if 1000 ≤ t.nanos then decimalText (t.nanos / 1000) (t.nanos % 1000) 3 ++ "µs"
  else toString t.nanos ++ "ns"

end Timeout

/-- a reading of the clock -/
structure Instant where
  seconds : Int64
  nanos : Nat
  nanos_lt : nanos < 1000000000
  deriving DecidableEq, Repr

namespace Instant

/-- nanoseconds from the origin -/
def total (i : Instant) : Int := i.seconds.toInt * 1000000000 + i.nanos

/-- `t` is not before `i` -/
def reachedBy (i t : Instant) : Bool :=
  i.seconds < t.seconds || (i.seconds == t.seconds && i.nanos ≤ t.nanos)

/-- the instant a timeout later; none past the last instant -/
def after? (i : Instant) (d : Timeout) : Option Instant :=
  let nanos := i.nanos + d.nanos
  let carry : Nat := nanos / 1000000000
  let seconds : Int := i.seconds.toInt + d.seconds + carry
  if seconds < 0x8000000000000000 then
    some {
      seconds := .ofInt seconds
      nanos := nanos % 1000000000
      nanos_lt := Nat.mod_lt _ (by decide) }
  else none

instance : Inhabited Instant := ⟨⟨0, 0, by decide⟩⟩

end Instant

end PromptDispatch

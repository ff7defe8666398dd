import PromptDispatch.Timeout

/-!
# Contexts of invocations

A context holds a token, by which it is cancelled, and perhaps a deadline.  Tokens are names of
flags in a store (`Flags`), so that contexts which hold one token are cancelled together.  A
`Session` gives names to contexts and tokens and runs steps on them.
-/

namespace PromptDispatch

/-! ## tokens -/

/-- the name of a flag -/
structure Token where
  index : Nat
  deriving DecidableEq, Repr

/-- the flags of all tokens; a flag that is set stays set -/
structure Flags where
  next : Nat := 0
  raised : List Nat := []
  deriving Repr, DecidableEq

namespace Flags

/-- a token of its own, not cancelled -/
def fresh (f : Flags) : Token × Flags := (⟨f.next⟩, { f with next := f.next + 1 })

def cancel (f : Flags) (t : Token) : Flags := { f with raised := t.index :: f.raised }

def isCancelled (f : Flags) (t : Token) : Bool := t.index ∈ f.raised

end Flags

/-! ## contexts -/

/-- why a context stops an invocation -/
inductive Interruption where
  | cancelled
  /-- the deadline has passed; with the timeout that was set -/
  | timedOut (timeout : Timeout)
  deriving DecidableEq, Repr

structure Context where
  token : Token
  deadline : Option (Instant × Timeout) := none
  deriving DecidableEq, Repr

namespace Context

/-- a context that is only cancelled by its token -/
def background (t : Token) : Context := { token := t }

/-- with the deadline a timeout from `now`; a timeout past the last instant is no deadline -/
def timeout (c : Context) (now : Instant) (d : Timeout) : Context :=
  { c with deadline := (now.after? d).map fun i => (i, d) }

def withToken (c : Context) (t : Token) : Context := { c with token := t }

/-- the reason to stop, if there is one; cancellation comes before the deadline -/
def interruption (c : Context) (flags : Flags) (now : Instant) : Option Interruption :=
  if flags.isCancelled c.token then some .cancelled
  else
    match c.deadline with
    | none => none
    | some (i, d) => if i.reachedBy now then some (.timedOut d) else none

end Context

/-! ## sessions -/

inductive ContextStep where
  | background (as : String)
  | withTimeout (as : String) (timeout : Timeout)
  | timeout (context as : String) (timeout : Timeout)
  | clone (context as : String)
  | withToken (context token as : String)
  | cancel (context : String)
  | newToken (as : String)
  | tokenOf (context as : String)
  | cancelToken (token : String)
  deriving DecidableEq, Repr

/-- contexts and tokens by name -/
structure Session where
  flags : Flags := {}
  contexts : List (String × Context) := []
  tokens : List (String × Token) := []

namespace Session

def setContext (s : Session) (name : String) (c : Context) : Session :=
  { s with contexts := (name, c) :: s.contexts.filter (·.1 ≠ name) }

def setToken (s : Session) (name : String) (t : Token) : Session :=
  { s with tokens := (name, t) :: s.tokens.filter (·.1 ≠ name) }

def context? (s : Session) (name : String) : Option Context := s.contexts.lookup name

def token? (s : Session) (name : String) : Option Token := s.tokens.lookup name

/-- one step at the instant `now`; a step on a name that is not there changes nothing -/
def step (s : Session) (now : Instant) : ContextStep → Session
  | .background as =>
    let (t, flags) := s.flags.fresh
    { s with flags }.setContext as (.background t)
  | .withTimeout as d =>
    let (t, flags) := s.flags.fresh
    { s with flags }.setContext as ((Context.background t).timeout now d)
  | .timeout context as d =>
    ((s.context? context).map fun c => s.setContext as (c.timeout now d)).getD s
  | .clone context as => ((s.context? context).map (s.setContext as)).getD s
  | .withToken context token as =>
    (((s.context? context).bind fun c => (s.token? token).map fun t =>
      s.setContext as (c.withToken t))).getD s
  | .cancel context =>
    ((s.context? context).map fun c => { s with flags := s.flags.cancel c.token }).getD s
  | .newToken as =>
    let (t, flags) := s.flags.fresh
    { s with flags }.setToken as t
  | .tokenOf context as => ((s.context? context).map fun c => s.setToken as c.token).getD s
  | .cancelToken token =>
    ((s.token? token).map fun t => { s with flags := s.flags.cancel t }).getD s

/-- what each context reports at the instant `now` -/
def report (s : Session) (now : Instant) (name : String) : Option Interruption :=
  (s.context? name).bind fun c => c.interruption s.flags now

def tokenReport (s : Session) (name : String) : Bool :=
  ((s.token? name).map s.flags.isCancelled).getD false

end Session

end PromptDispatch

import PromptDispatch.Proofs.Invocation.Cancellation

/-!
# When a deadline is reported

Instants and timeouts count nanoseconds (`Instant.total`, `Timeout.total`).  A deadline is the
instant whose count is the sum of both, and it is reported from that instant on; a sum that no
instant has is no deadline.

* `Instant.after?_eq_some_iff`   the instant a timeout later;
* `Instant.afterInWords?_eq`     the same sum in words of 64 and 32 bits;
* `Context.interruption_timeout` what a context reports after its deadline was set;
* `Context.timedOut_stays`       what it reports after it has timed out;
* `deadline_of_timeout`          the laws of deadlines.
-/

namespace PromptDispatch

def Timeout.total (d : Timeout) : Int := d.seconds * 1000000000 + d.nanos

theorem Timeout.total_nonneg (d : Timeout) : 0 ≤ d.total := by
  show (0 : Int) ≤ d.seconds * 1000000000 + d.nanos
  omega

/-! ## instants -/

namespace Instant

variable {i t : Instant} {d : Timeout}

theorem ext_of_total (h : i.total = t.total) : i = t := by
  obtain ⟨a, n, hn⟩ := i
  obtain ⟨b, m, hm⟩ := t
  have hsum : a.toInt * 1000000000 + n = b.toInt * 1000000000 + m := h
  obtain rfl : a = b := Int64.toInt_inj.1 (by omega)
  obtain rfl : n = m := by omega
  rfl

theorem exists_total_iff (x : Int) :
    (∃ i : Instant, i.total = x) ↔ -0x8000000000000000 * 1000000000 ≤ x ∧ x < 0x8000000000000000 * 1000000000 := by
  constructor
  · rintro ⟨⟨a, n, hn⟩, rfl⟩
    have hlow := a.le_toInt
    have hhigh := a.toInt_lt
    show _ ≤ a.toInt * 1000000000 + n ∧ a.toInt * 1000000000 + n < _
    omega
  · rintro ⟨hlow, hhigh⟩
    have hseconds : (Int64.ofInt (x / 1000000000)).toInt = x / 1000000000 :=
      Int64.toInt_ofInt_of_le (by omega) (by omega)
    refine ⟨⟨.ofInt (x / 1000000000), (x % 1000000000).toNat, by omega⟩, ?_⟩
    show (Int64.ofInt _).toInt * 1000000000 + ((x % 1000000000).toNat : Int) = x
    rw [hseconds]
    omega

theorem reachedBy_iff (i t : Instant) : i.reachedBy t = true ↔ i.total ≤ t.total := by
  obtain ⟨a, n, hn⟩ := i
  obtain ⟨b, m, hm⟩ := t
  show (a < b || (a == b && n ≤ m)) = true ↔ a.toInt * 1000000000 + n ≤ b.toInt * 1000000000 + m
  rw [Bool.or_eq_true, Bool.and_eq_true, decide_eq_true_iff, decide_eq_true_iff, beq_iff_eq,
    Int64.lt_iff_toInt_lt, ← Int64.toInt_inj]
  omega

/-- the sum that is made of an instant and a timeout counts the nanoseconds of both -/
theorem total_of_after? (h : i.after? d = some t) : t.total = i.total + d.total := by
  obtain ⟨a, n, hn⟩ := i
  have hlow := a.le_toInt
  simp only [after?] at h
  split at h
  · obtain rfl := Option.some.inj h
    show (Int64.ofInt _).toInt * 1000000000 + ((n + d.nanos) % 1000000000 : Nat) =
      a.toInt * 1000000000 + n + (d.seconds * 1000000000 + d.nanos)
    rw [Int64.toInt_ofInt_of_le (by omega) (by omega)]
    omega
  · cases h

theorem after?_eq_none_iff_le :
    i.after? d = none ↔ 0x8000000000000000 * 1000000000 ≤ i.total + d.total := by
  obtain ⟨a, n, hn⟩ := i
  show _ ↔ _ ≤ a.toInt * 1000000000 + n + (d.seconds * 1000000000 + d.nanos)
  simp only [after?]
  split
  · refine iff_of_false nofun ?_
    omega
  · refine iff_of_true rfl ?_
    omega

/-- The instant a timeout later is the one that counts the sum, if there is one. -/
theorem after?_eq_some_iff : i.after? d = some t ↔ t.total = i.total + d.total := by
  refine ⟨total_of_after?, fun h => ?_⟩
  have hbound : t.total < 0x8000000000000000 * 1000000000 := ((exists_total_iff t.total).1 ⟨t, rfl⟩).2
  cases hsum : i.after? d with
  | none =>
    have hle := after?_eq_none_iff_le.1 hsum
    omega
  | some t' =>
    have htotal := total_of_after? hsum
    rw [ext_of_total (htotal.trans h.symm)]

theorem after?_eq_none_iff : i.after? d = none ↔ ¬∃ t : Instant, t.total = i.total + d.total := by
  rw [Option.eq_none_iff_forall_ne_some, not_exists]
  exact forall_congr' fun t => not_congr after?_eq_some_iff

end Instant

/-! ## sums in words -/

/-- a word with a sign and one without, added where the sum is a word with a sign; of two such words
the sum that wraps is below the first one -/
def addWords? (a : Int64) (b : UInt64) : Option Int64 :=
  let sum := a + b.toInt64
  if a ≤ sum then some sum else none

theorem toInt_toInt64 (b : UInt64) : b.toInt64.toInt = (b.toNat : Int).bmod (0x10000000000000000) := by
  rw [← Int64.toInt_toBitVec, UInt64.toBitVec_toInt64, BitVec.toInt_eq_toNat_bmod]
  rfl

/-- a sum that wraps is less than it should be by the number of all words -/
theorem toInt_add_toInt64 (a : Int64) (b : UInt64) :
    (a + b.toInt64).toInt = a.toInt + b.toNat ∨
      (a + b.toInt64).toInt = a.toInt + b.toNat - 0x10000000000000000 ∧ 0x8000000000000000 ≤ a.toInt + b.toNat := by
  have hlow := a.le_toInt
  have hhigh := a.toInt_lt
  have hb := b.toNat_lt
  rw [Int64.toInt_add, toInt_toInt64, Int.bmod_def, Int.bmod_def]
  split <;> split <;> omega

theorem addWords?_eq_some_iff {a c : Int64} {b : UInt64} :
    addWords? a b = some c ↔ c.toInt = a.toInt + b.toNat := by
  have hb := b.toNat_lt
  have hc := c.toInt_lt
  have hsum := toInt_add_toInt64 a b
  rw [addWords?]
  split
  · rename_i hle
    rw [Option.some.injEq, ← Int64.toInt_inj]
    rw [Int64.le_iff_toInt_le] at hle
    omega
  · rename_i hle
    rw [Int64.le_iff_toInt_le] at hle
    refine iff_of_false nofun ?_
    omega

theorem addWords?_eq_none_iff {a : Int64} {b : UInt64} :
    addWords? a b = none ↔ 0x8000000000000000 ≤ a.toInt + b.toNat := by
  have hlow := a.le_toInt
  constructor
  · intro h
    refine Int.not_lt.1 fun hlt => ?_
    have hsum : (Int64.ofInt (a.toInt + b.toNat)).toInt = a.toInt + b.toNat :=
      Int64.toInt_ofInt_of_le (by omega) (by omega)
    rw [addWords?_eq_some_iff.2 hsum] at h
    cases h
  · intro hle
    refine Option.eq_none_iff_forall_ne_some.2 fun c hc => ?_
    have hsum := addWords?_eq_some_iff.1 hc
    have hc := c.toInt_lt
    omega

namespace Instant

/-- the instant a timeout later, in words: seconds in 64 bits, nanoseconds in 32 -/
def afterInWords? (i : Instant) (d : Timeout) : Option (Int64 × UInt32) :=
  (addWords? i.seconds (.ofNat d.seconds)).bind fun seconds =>
    let nanos := UInt32.ofNat i.nanos + UInt32.ofNat d.nanos
    if nanos < 1000000000 then some (seconds, nanos)
    else (addWords? seconds 1).map fun seconds => (seconds, nanos - 1000000000)

section
variable (i : Instant) (d : Timeout)

theorem nanos_lt_size : i.nanos + d.nanos < UInt32.size := by
  have hi := i.nanos_lt
  have hd := d.nanos_lt
  show _ < 4294967296
  omega

theorem total_add : i.total + d.total =
    (i.seconds.toInt + d.seconds) * 1000000000 + (i.nanos + d.nanos : Nat) := by
  show i.seconds.toInt * 1000000000 + i.nanos + (d.seconds * 1000000000 + d.nanos) = _
  omega

variable {i d}

theorem after?_of_no_carry {s : Int64} (hs : s.toInt = i.seconds.toInt + d.seconds)
    (h : i.nanos + d.nanos < 1000000000) : i.after? d = some ⟨s, i.nanos + d.nanos, h⟩ := by
  rw [after?_eq_some_iff, total_add, ← hs]
  rfl

theorem after?_of_carry {s : Int64} (hs : s.toInt = i.seconds.toInt + d.seconds + 1)
    (h : 1000000000 ≤ i.nanos + d.nanos) (hlt : i.nanos + d.nanos - 1000000000 < 1000000000) :
    i.after? d = some ⟨s, i.nanos + d.nanos - 1000000000, hlt⟩ := by
  rw [after?_eq_some_iff, total_add]
  show s.toInt * 1000000000 + ((i.nanos + d.nanos - 1000000000 : Nat) : Int) = _
  omega

end

/-- The sum in words is the instant a timeout later, and there is none where that one is none. -/
theorem afterInWords?_eq (i : Instant) (d : Timeout) :
    i.afterInWords? d = (i.after? d).map fun t => (t.seconds, UInt32.ofNat t.nanos) := by
  have hd : (UInt64.ofNat d.seconds).toNat = d.seconds := UInt64.toNat_ofNat_of_lt' d.seconds_lt
  have hi := i.nanos_lt
  have hd' := d.nanos_lt
  have htotal := total_add i d
  have hless : UInt32.ofNat (i.nanos + d.nanos) < 1000000000 ↔ i.nanos + d.nanos < 1000000000 :=
    UInt32.ofNat_lt_iff_lt (nanos_lt_size i d) (by decide)
  rw [afterInWords?, ← UInt32.ofNat_add]
  cases hseconds : addWords? i.seconds (.ofNat d.seconds) with
  | none =>
    have hle := addWords?_eq_none_iff.1 hseconds
    rw [after?_eq_none_iff_le.2 (by omega)]
    rfl
  | some s =>
    have hs := addWords?_eq_some_iff.1 hseconds
    rw [hd] at hs
    rw [Option.bind_some]
    by_cases hcarry : i.nanos + d.nanos < 1000000000
    · rw [if_pos (hless.2 hcarry), after?_of_no_carry hs hcarry]
      rfl
    · rw [if_neg (mt hless.1 hcarry)]
      cases hnext : addWords? s 1 with
      | none =>
        have hle : 0x8000000000000000 ≤ s.toInt + 1 := addWords?_eq_none_iff.1 hnext
        rw [after?_eq_none_iff_le.2 (by omega)]
        rfl
      | some s' =>
        have hs' : s'.toInt = s.toInt + 1 := addWords?_eq_some_iff.1 hnext
        rw [after?_of_carry (hs'.trans (by rw [hs])) (by omega) (by omega), Option.map_some,
          Option.map_some, UInt32.ofNat_sub (by omega)]
        rfl

end Instant

/-! ## reports -/

namespace Context

variable {c : Context} {flags : Flags} {i t t' : Instant} {d : Timeout}

theorem interruption_of_deadline (h : c.deadline = some (i, d)) (flags : Flags) (t : Instant) :
    c.interruption flags t =
      if flags.isCancelled c.token then some .cancelled
      else if i.total ≤ t.total then some (.timedOut d) else none := by
  rw [interruption, h]
  simp only [Instant.reachedBy_iff]

theorem interruption_of_no_deadline (h : c.deadline = none) (flags : Flags) (t : Instant) :
    c.interruption flags t = if flags.isCancelled c.token then some .cancelled else none := by
  rw [interruption, h]

theorem exists_of_timedOut (h : c.interruption flags t = some (.timedOut d)) :
    ∃ i, c.deadline = some (i, d) ∧ i.total ≤ t.total := by
  cases hdeadline : c.deadline with
  | none =>
    rw [interruption_of_no_deadline hdeadline] at h
    split at h <;> cases h
  | some e =>
    obtain ⟨i, e⟩ := e
    rw [interruption_of_deadline hdeadline] at h
    split at h
    · cases h
    split at h
    · rename_i hle
      cases h
      exact ⟨i, rfl, hle⟩
    · cases h

theorem timedOut_stays (h : c.interruption flags t = some (.timedOut d)) (hle : t.total ≤ t'.total)
    (flags' : Flags) :
    c.interruption flags' t' =
      if flags'.isCancelled c.token then some .cancelled else some (.timedOut d) := by
  obtain ⟨i, hdeadline, hi⟩ := exists_of_timedOut h
  rw [interruption_of_deadline hdeadline, if_pos (Int.le_trans hi hle)]

variable (c) (n : Instant) (d : Timeout)

theorem deadline_timeout (h : i.total = n.total + d.total) :
    (c.timeout n d).deadline = some (i, d) := by
  show (n.after? d).map (fun i => (i, d)) = _
  rw [Instant.after?_eq_some_iff.2 h]
  rfl

/-- where no instant is so late the deadline that was there goes, too -/
theorem deadline_timeout_of_not_exists (h : ¬∃ i : Instant, i.total = n.total + d.total) :
    (c.timeout n d).deadline = none := by
  show (n.after? d).map (fun i => (i, d)) = _
  rw [Instant.after?_eq_none_iff.2 h]
  rfl

end Context

/-- **A deadline is reported from its instant on.**  A timeout `d` that is set at the instant `n` is
reported from the instant on that counts `n` and `d` together, and not before; if there is no such
instant it is never reported, and neither is an older one.  The sum in words of 64 and 32 bits is
the same.  What has timed out stays so at every later instant, until it is cancelled. -/
theorem deadline_of_timeout (c : Context) (n : Instant) (d : Timeout) :
    ((∃ i : Instant, i.total = n.total + d.total) ↔ n.total + d.total < 0x8000000000000000 * 1000000000) ∧
      ((∃ i : Instant, i.total = n.total + d.total) → ∀ flags t,
        (c.timeout n d).interruption flags t =
          if flags.isCancelled c.token then some .cancelled
          else if n.total + d.total ≤ t.total then some (.timedOut d) else none) ∧
      ((¬∃ i : Instant, i.total = n.total + d.total) →
        (c.timeout n d).deadline = none ∧ ∀ flags t,
          (c.timeout n d).interruption flags t =
            if flags.isCancelled c.token then some .cancelled else none) ∧
      n.afterInWords? d = ((n.after? d).map fun i => (i.seconds, UInt32.ofNat i.nanos)) ∧
      n.nanos + d.nanos < UInt32.size ∧
      ∀ hist later t t', t.total ≤ t'.total →
        (c.timeout n d).interruption (Session.after hist).flags t = some (.timedOut d) →
          (TokenCancelled (later ++ hist) c.token.index →
            (c.timeout n d).interruption (Session.after (later ++ hist)).flags t' =
              some .cancelled) ∧
          (¬TokenCancelled (later ++ hist) c.token.index →
            (c.timeout n d).interruption (Session.after (later ++ hist)).flags t' =
              some (.timedOut d)) := by
  refine ⟨?_, ?_, ?_, n.afterInWords?_eq d, n.nanos_lt_size d, ?_⟩
  · have hn := ((Instant.exists_total_iff n.total).1 ⟨n, rfl⟩).1
    have hd := d.total_nonneg
    rw [Instant.exists_total_iff]
    omega
  · rintro ⟨i, hi⟩ flags t
    rw [Context.interruption_of_deadline (c.deadline_timeout n d hi), hi]
    rfl
  · intro h
    have hdeadline := c.deadline_timeout_of_not_exists n d h
    exact ⟨hdeadline, Context.interruption_of_no_deadline hdeadline⟩
  · intro hist later t t' hle h
    have hstays := Context.timedOut_stays h hle (Session.after (later ++ hist)).flags
    rw [← Session.isCancelled_after (later ++ hist) c.token]
    exact ⟨fun hc => hstays.trans (if_pos hc), fun hc => hstays.trans (if_neg hc)⟩

/-- a carry into the last second, and one past it, over a deadline that has passed before -/
theorem deadline_of_timeout_last_second :
    let early : Context := (Context.background ⟨0⟩).timeout default default
    let start : Instant := ⟨9223372036854775806, 999999999, by decide⟩
    let last : Instant := ⟨9223372036854775807, 0, by decide⟩
    let short : Timeout := { seconds := 0, nanos := 1 }
    let long : Timeout := { seconds := 1, nanos := 1 }
    early.interruption {} last = some (.timedOut default) ∧
      (early.timeout start short).interruption {} start = none ∧
      (early.timeout start short).interruption {} last = some (.timedOut short) ∧
      (early.timeout start long).interruption {} last = none ∧
      (early.timeout start short).interruption
        (Session.after [(last, .cancel "a"), (start, .background "a")]).flags last =
          some .cancelled := by
  intro early start last short long
  obtain ⟨-, hset, -, -, -, hstays⟩ := deadline_of_timeout early start short
  obtain ⟨hfits, -, hunset, -⟩ := deadline_of_timeout early start long
  have hlast := hset ⟨last, by decide⟩
  have hcancelled : TokenCancelled [(last, .cancel "a"), (start, .background "a")] 0 :=
    ⟨[], last, .cancel "a", [(start, .background "a")], .context "a", rfl, rfl, by decide⟩
  refine ⟨by decide, ?_, ?_, ?_, ?_⟩
  · exact (hlast {} start).trans (by decide)
  · exact (hlast {} last).trans (by decide)
  · exact ((hunset (mt hfits.1 (by decide))).2 {} last).trans (by decide)
  · exact (hstays [(start, .background "a")] [(last, .cancel "a")] last last (by decide)
      (by decide)).1 hcancelled

end PromptDispatch

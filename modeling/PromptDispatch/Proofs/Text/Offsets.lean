import PromptDispatch.Proofs.Text.Places
import PromptDispatch.Proofs.Text.Utf8

/-!
# Places in bytes

Bytes are searched by offsets, and cut at offsets: `slice` refuses a cut that is out of order, out
of range or inside of a character.  Where the first byte of a character can stand, no other byte of
one can, so the bytes of one text stand among those of another one exactly where the text itself
stands there (`stands_encode_iff`).

* `offset?`, `lastOffset?`     the first and the last place among bytes;
* `isBoundary_encode_iff`      the offsets where a text can be cut;
* `offset?_encode`             the bytes are found where the text is found;
* `slice_encode`               what is cut out between two places of a text.
-/

namespace PromptDispatch.Text

/-! ## offsets -/

def offset? (w s : List UInt8) : Option Nat :=
  (List.range (s.length + 1)).find? fun i => w.isPrefixOf (s.drop i)

def lastOffset? (w s : List UInt8) : Option Nat :=
  (List.range (s.length + 1)).reverse.find? fun i => w.isPrefixOf (s.drop i)

/-- what is found in a list that is in order comes before all else that could be found -/
theorem find?_eq_some_iff_of_pairwise {R : Nat → Nat → Prop} (hasymm : ∀ i j, R i j → ¬R j i)
    {l : List Nat} (h : l.Pairwise R) {p : Nat → Bool} {i : Nat} :
    l.find? p = some i ↔ (i ∈ l ∧ p i = true) ∧ ∀ j, j ∈ l ∧ p j = true → ¬R j i := by
  rw [List.find?_eq_some_iff_append]
  constructor
  · rintro ⟨hi, x, y, rfl, hx⟩
    refine ⟨⟨by simp, hi⟩, fun j ⟨hj, hpj⟩ => ?_⟩
    rcases List.mem_append.1 hj with hj | hj
    · exact absurd hpj (by simpa using hx j hj)
    rcases List.mem_cons.1 hj with rfl | hj
    · exact fun hR => hasymm j j hR hR
    · exact hasymm i j ((List.pairwise_cons.1 (List.pairwise_append.1 h).2.1).1 j hj)
  · rintro ⟨⟨hi, hpi⟩, hfirst⟩
    obtain ⟨x, y, rfl⟩ := List.append_of_mem hi
    refine ⟨hpi, x, y, rfl, fun j hj => ?_⟩
    have hR : R j i := (List.pairwise_append.1 h).2.2 j hj i List.mem_cons_self
    simpa using fun hpj => hfirst j ⟨List.mem_append_left _ hj, hpj⟩ hR

section
variable {w s : List UInt8} {i : Nat}

theorem stands_iff :
    (i ∈ List.range (s.length + 1) ∧ w.isPrefixOf (s.drop i) = true) ↔
      ∃ a, a ++ w <+: s ∧ a.length = i := by
  rw [List.mem_range, List.isPrefixOf_iff_prefix]
  constructor
  · rintro ⟨hi, hw⟩
    refine ⟨s.take i, ?_, by rw [List.length_take]; omega⟩
    have h := (List.prefix_append_right_inj (s.take i)).2 hw
    rwa [List.take_append_drop] at h
  · rintro ⟨a, ⟨r, rfl⟩, rfl⟩
    rw [List.append_assoc, List.drop_left, List.length_append]
    exact ⟨by omega, List.prefix_append w r⟩

/-- the first of all offsets in the order of `R`, at which `w` stands -/
theorem find?_offsets_eq_some_iff {R : Nat → Nat → Prop} (hasymm : ∀ i j, R i j → ¬R j i)
    {l : List Nat} (hl : l.Perm (List.range (s.length + 1))) (h : l.Pairwise R) :
    l.find? (fun i => w.isPrefixOf (s.drop i)) = some i ↔
      ∃ a, (a ++ w <+: s ∧ ∀ b, b ++ w <+: s → ¬R b.length a.length) ∧ a.length = i := by
  rw [find?_eq_some_iff_of_pairwise hasymm h]
  simp only [hl.mem_iff, stands_iff]
  constructor
  · rintro ⟨⟨a, ha, rfl⟩, hfirst⟩
    exact ⟨a, ⟨ha, fun b hb => hfirst b.length ⟨b, hb, rfl⟩⟩, rfl⟩
  · rintro ⟨a, ⟨ha, hfirst⟩, rfl⟩
    refine ⟨⟨a, ha, rfl⟩, ?_⟩
    rintro _ ⟨b, hb, rfl⟩
    exact hfirst b hb

theorem offset?_eq_some_iff : offset? w s = some i ↔ ∃ a, First w a s ∧ a.length = i := by
  rw [offset?, find?_offsets_eq_some_iff (fun _ _ => Nat.lt_asymm) .rfl List.pairwise_lt_range]
  simp only [first_iff, Nat.not_lt]

theorem lastOffset?_eq_some_iff : lastOffset? w s = some i ↔ ∃ a, Last w a s ∧ a.length = i := by
  rw [lastOffset?, find?_offsets_eq_some_iff (fun _ _ => Nat.lt_asymm) (List.reverse_perm _)
    (List.pairwise_reverse.2 List.pairwise_lt_range)]
  simp only [last_iff, Nat.not_lt]

end

/-! ## bytes of characters -/

/-- a byte that goes on with a character -/
def isContinuation (b : UInt8) : Bool := 0x80 ≤ b.toNat && b.toNat < 0xC0

theorem isContinuation_eq_false {n : Nat} (h : n < 0x80 ∨ 0xC0 ≤ n) (h' : n < 256) :
    isContinuation (UInt8.ofNat n) = false := by
  rw [isContinuation, toNat_ofNat_of_lt h', Bool.and_eq_false_iff, decide_eq_false_iff_not,
    decide_eq_false_iff_not]
  omega

theorem isContinuation_eq_true {n : Nat} (h : n < 0x40) :
    isContinuation (UInt8.ofNat (n + 0x80)) = true := by
  rw [isContinuation, toNat_ofNat_of_lt (by omega), Bool.and_eq_true, decide_eq_true_eq,
    decide_eq_true_eq]
  omega

theorem exists_utf8EncodeChar (c : Char) :
    ∃ b t, String.utf8EncodeChar c = b :: t ∧ isContinuation b = false ∧
      ∀ x ∈ t, isContinuation x = true := by
  have hvalid : c.val.toNat < 0x110000 := by
    rcases c.valid with h | h
    · exact Nat.lt_trans h (by decide)
    · exact h.2
  rw [String.utf8EncodeChar]
  generalize c.val.toNat = n at hvalid
  have hlow (m : Nat) : isContinuation (UInt8.ofNat (m % 0x40 + 0x80)) = true :=
    isContinuation_eq_true (Nat.mod_lt m (by decide))
  have hnil : ∀ x ∈ ([] : List UInt8), isContinuation x = true := List.forall_mem_nil _
  split
  · exact ⟨_, _, rfl, isContinuation_eq_false (by omega) (by omega), hnil⟩
  have hone : ∀ x ∈ [UInt8.ofNat (n % 0x40 + 0x80)], isContinuation x = true :=
    List.forall_mem_cons.2 ⟨hlow n, hnil⟩
  split
  · exact ⟨_, _, rfl, isContinuation_eq_false (by omega) (by omega), hone⟩
  have htwo : ∀ x ∈ [UInt8.ofNat (n / 64 % 0x40 + 0x80), UInt8.ofNat (n % 0x40 + 0x80)],
      isContinuation x = true :=
    List.forall_mem_cons.2 ⟨hlow (n / 64), hone⟩
  split
  · exact ⟨_, _, rfl, isContinuation_eq_false (by omega) (by omega), htwo⟩
  · exact ⟨_, _, rfl, isContinuation_eq_false (by omega) (by omega),
      List.forall_mem_cons.2 ⟨hlow (n / 4096), htwo⟩⟩

/-- whether bytes can be cut at an offset: at their ends, and before a byte that begins a
character -/
def isBoundary (bytes : List UInt8) (i : Nat) : Bool :=
  match bytes[i]? with
  | none => i = bytes.length
  | some b => i = 0 || !isContinuation b

theorem isBoundary_zero (bytes : List UInt8) : isBoundary bytes 0 = true := by
  cases bytes <;> rfl

theorem isBoundary_length (bytes : List UInt8) : isBoundary bytes bytes.length = true := by
  simp [isBoundary]

theorem isBoundary_of_append {x y : List UInt8} {j : Nat}
    (h : isBoundary (x ++ y) (x.length + j) = true) : isBoundary y j = true := by
  cases j with
  | zero => exact isBoundary_zero y
  | succ j =>
    rw [isBoundary, List.getElem?_append_right (Nat.le_add_right _ _), Nat.add_sub_cancel_left] at h
    rw [isBoundary]
    cases hy : y[j + 1]? with
    | none =>
      rw [hy, List.length_append] at h
      simpa using h
    | some b =>
      rw [hy] at h
      simpa using h

section
variable {s : List Char} {i : Nat}

/-- A text can be cut between its characters and at its ends, and nowhere else. -/
theorem isBoundary_encode_iff :
    isBoundary (encode s) i = true ↔ ∃ a, a <+: s ∧ (encode a).length = i := by
  constructor
  · intro h
    induction s generalizing i with
    | nil =>
      rw [isBoundary, encode_nil, List.getElem?_nil] at h
      exact ⟨[], List.nil_prefix, (of_decide_eq_true h).symm⟩
    | cons c s ih =>
      obtain ⟨b, t, hc, -, ht⟩ := exists_utf8EncodeChar c
      rcases Nat.eq_zero_or_pos i with rfl | hi
      · exact ⟨[], List.nil_prefix, rfl⟩
      rcases Nat.lt_or_ge i (String.utf8EncodeChar c).length with hlt | hge
      · -- inside of `c` there are only bytes that go on with it
        obtain ⟨j, rfl⟩ := Nat.exists_eq_add_one_of_ne_zero (Nat.ne_of_gt hi)
        rw [hc, List.length_cons, Nat.add_lt_add_iff_right] at hlt
        rw [isBoundary, encode_cons, hc, List.cons_append, List.getElem?_cons_succ,
          List.getElem?_append_left hlt, List.getElem?_eq_getElem hlt] at h
        simp [ht _ (List.getElem_mem hlt)] at h
      · obtain ⟨j, rfl⟩ := Nat.exists_eq_add_of_le hge
        rw [encode_cons] at h
        obtain ⟨a, ha, rfl⟩ := ih (isBoundary_of_append h)
        exact ⟨c :: a, List.cons_prefix_cons.2 ⟨rfl, ha⟩, by rw [encode_cons, List.length_append]⟩
  · rintro ⟨a, ⟨r, rfl⟩, rfl⟩
    rw [encode_append]
    cases r with
    | nil =>
      rw [encode_nil, List.append_nil]
      exact isBoundary_length (encode a)
    | cons c r =>
      obtain ⟨b, t, hc, hb, -⟩ := exists_utf8EncodeChar c
      rw [isBoundary, encode_cons, hc, List.getElem?_append_right (Nat.le_refl _), Nat.sub_self]
      simp [hb]

/-! ## bytes of texts in bytes of texts -/

theorem decode_encode_append (s : List Char) (r : List UInt8) :
    decode (encode s ++ r) = s.map some ++ decode r := by
  induction s with
  | nil => rfl
  | cons c s ih =>
    rw [encode_cons, List.append_assoc, decode_utf8EncodeChar, ih, List.map_cons, List.cons_append]

variable {w a b : List Char} {x y : List UInt8}

theorem exists_of_encode_eq_append (h : encode s = encode w ++ y) : ∃ r, s = w ++ r := by
  have hdecode := congrArg decode h
  rw [decode_encode, decode_encode_append, List.map_eq_append_iff] at hdecode
  obtain ⟨w', r, rfl, hw, -⟩ := hdecode
  exact ⟨r, by rw [(List.map_inj_right fun _ _ => Option.some.inj).1 hw]⟩

/-- The bytes of a text stand among those of another one where the text itself does, and nowhere
else. -/
theorem stands_encode_iff (hw : w ≠ []) :
    x ++ encode w <+: encode s ↔ ∃ a, a ++ w <+: s ∧ encode a = x := by
  constructor
  · rintro ⟨y, hy⟩
    have hcut : isBoundary (encode s) x.length = true := by
      obtain ⟨c, w, rfl⟩ := List.exists_cons_of_ne_nil hw
      obtain ⟨b, t, hc, hb, -⟩ := exists_utf8EncodeChar c
      rw [← hy, List.append_assoc, isBoundary, encode_cons, hc,
        List.getElem?_append_right (Nat.le_refl _), Nat.sub_self]
      simp [hb]
    obtain ⟨a, ⟨r, rfl⟩, hlength⟩ := isBoundary_encode_iff.1 hcut
    rw [encode_append, List.append_assoc] at hy
    obtain ⟨rfl, hr⟩ := List.append_inj hy hlength.symm
    obtain ⟨r', rfl⟩ := exists_of_encode_eq_append hr.symm
    exact ⟨a, ⟨r', List.append_assoc a w r'⟩, rfl⟩
  · rintro ⟨a, ⟨r, rfl⟩, rfl⟩
    exact ⟨encode r, by rw [encode_append, encode_append]⟩

theorem encode_eq_nil_iff : encode s = [] ↔ s = [] := by
  rw [← encode_nil]
  exact ⟨fun h => encode_injective h, fun h => congrArg encode h⟩

theorem length_encode_le_iff (ha : a <+: s) (hb : b <+: s) :
    (encode a).length ≤ (encode b).length ↔ a.length ≤ b.length := by
  rcases List.prefix_or_prefix_of_prefix ha hb with ⟨t, rfl⟩ | ⟨t, rfl⟩
  · simp [encode_append]
  · have ht : (encode t).length = 0 ↔ t.length = 0 := by
      rw [List.length_eq_zero_iff, List.length_eq_zero_iff, encode_eq_nil_iff]
    rw [encode_append, List.length_append, List.length_append]
    omega

theorem first_encode_iff (hw : w ≠ []) :
    First (encode w) x (encode s) ↔ ∃ a, First w a s ∧ encode a = x := by
  simp only [first_iff, stands_encode_iff hw]
  constructor
  · rintro ⟨⟨a, ha, rfl⟩, hleast⟩
    refine ⟨a, ⟨ha, fun b hb => ?_⟩, rfl⟩
    rw [← length_encode_le_iff (prefix_of_stands ha) (prefix_of_stands hb)]
    exact hleast (encode b) ⟨b, hb, rfl⟩
  · rintro ⟨a, ⟨ha, hleast⟩, rfl⟩
    refine ⟨⟨a, ha, rfl⟩, ?_⟩
    rintro _ ⟨b, hb, rfl⟩
    exact (length_encode_le_iff (prefix_of_stands ha) (prefix_of_stands hb)).2 (hleast b hb)

theorem last_encode_iff (hw : w ≠ []) :
    Last (encode w) x (encode s) ↔ ∃ a, Last w a s ∧ encode a = x := by
  simp only [last_iff, stands_encode_iff hw]
  constructor
  · rintro ⟨⟨a, ha, rfl⟩, hgreatest⟩
    refine ⟨a, ⟨ha, fun b hb => ?_⟩, rfl⟩
    rw [← length_encode_le_iff (prefix_of_stands hb) (prefix_of_stands ha)]
    exact hgreatest (encode b) ⟨b, hb, rfl⟩
  · rintro ⟨a, ⟨ha, hgreatest⟩, rfl⟩
    refine ⟨⟨a, ha, rfl⟩, ?_⟩
    rintro _ ⟨b, hb, rfl⟩
    exact (length_encode_le_iff (prefix_of_stands hb) (prefix_of_stands ha)).2 (hgreatest b hb)

theorem offset?_encode_eq_some_iff (hw : w ≠ []) :
    offset? (encode w) (encode s) = some i ↔ ∃ a, First w a s ∧ (encode a).length = i := by
  rw [offset?_eq_some_iff]
  simp only [first_encode_iff hw, exists_exists_and_eq_and]

theorem lastOffset?_encode_eq_some_iff (hw : w ≠ []) :
    lastOffset? (encode w) (encode s) = some i ↔ ∃ a, Last w a s ∧ (encode a).length = i := by
  rw [lastOffset?_eq_some_iff]
  simp only [last_encode_iff hw, exists_exists_and_eq_and]

/-- Bytes are found where the text is found. -/
theorem offset?_encode (hw : w ≠ []) :
    offset? (encode w) (encode s) = (cutAt w s).map fun c => (encode c.1).length := by
  refine Option.ext fun i => ?_
  rw [offset?_encode_eq_some_iff hw, Option.map_eq_some_iff]
  constructor
  · rintro ⟨a, ha, rfl⟩
    obtain ⟨r, hr⟩ := ha.stands
    exact ⟨(a, r), cutAt_eq_some_iff.2 ⟨by rw [← hr, List.append_assoc], ha⟩, rfl⟩
  · rintro ⟨⟨a, r⟩, hcut, rfl⟩
    exact ⟨a, (cutAt_eq_some_iff.1 hcut).2, rfl⟩

end

/-! ## cuts -/

structure BadSlice where
  start : Nat
  stop : Nat
  deriving DecidableEq, Repr

/-- the bytes from one offset to another one, if these are in order and in range, and the bytes can
be cut at both -/
def slice (bytes : List UInt8) (start stop : Nat) : Except BadSlice (List UInt8) :=
  if start ≤ stop ∧ stop ≤ bytes.length ∧ isBoundary bytes start ∧ isBoundary bytes stop then
    .ok ((bytes.drop start).take (stop - start))
  else .error ⟨start, stop⟩

/-- what stands between two places of a text -/
theorem slice_encode (a m r : List Char) :
    slice (encode (a ++ (m ++ r))) (encode a).length (encode (a ++ m)).length = .ok (encode m) := by
  have hstart : isBoundary (encode (a ++ (m ++ r))) (encode a).length = true :=
    isBoundary_encode_iff.2 ⟨a, List.prefix_append a _, rfl⟩
  have hstop : isBoundary (encode (a ++ (m ++ r))) (encode (a ++ m)).length = true :=
    isBoundary_encode_iff.2 ⟨a ++ m, ⟨r, List.append_assoc a m r⟩, rfl⟩
  have hlength : (encode (a ++ m)).length - (encode a).length = (encode m).length := by
    rw [encode_append, List.length_append, Nat.add_sub_cancel_left]
  have hcut : ((encode (a ++ (m ++ r))).drop (encode a).length).take (encode m).length =
      encode m := by
    rw [encode_append, List.drop_left, encode_append, List.take_left]
  rw [slice, if_pos ⟨by simp [encode_append], by simp [encode_append], hstart, hstop⟩, hlength,
    hcut]

section
variable {w a r s : List Char}

theorem slice_after (h : cutAt w s = some (a, r)) :
    slice (encode s) ((encode a).length + (encode w).length) (encode s).length =
      .ok (encode r) := by
  have hslice := slice_encode (a ++ w) r []
  rwa [List.append_nil, ← append_of_cutAt h, encode_append a w, List.length_append]
    at hslice

theorem slice_before (h : cutAt w s = some (a, r)) :
    slice (encode s) 0 (encode a).length = .ok (encode a) := by
  have hslice := slice_encode [] a (w ++ r)
  rwa [List.nil_append, ← List.append_assoc, ← append_of_cutAt h] at hslice

end

end PromptDispatch.Text

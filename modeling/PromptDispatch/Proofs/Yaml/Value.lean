import PromptDispatch.Proofs.Yaml.Number
import PromptDispatch.Yaml.Typed

/-!
# Values as nodes

What was read from a node is written as a node that is read as the same value again, whatever the
style and the tag of the first one were, and that is nested no deeper (`Value.ReadsBack`).

* `Node.value?_ofText`              texts;
* `Scalar.readsBack_of_value?`      scalars;
* `Value.readsBack_of_ofNode?`      values.
-/

namespace PromptDispatch.Yaml

/-! ## texts and truth values -/

/-- a text that would have no other type is one when it is written plain -/
theorem Scalar.plainValue?_of_not_isTyped {s : String} (h : isTyped s = false) :
    plainValue? s = some (.str s) := by
  simp only [isTyped, Bool.or_eq_false_iff, decide_eq_false_iff_not, Option.isSome_eq_false_iff,
    Option.isNone_iff_eq_none] at h
  obtain ⟨⟨⟨⟨⟨hempty, hnull⟩, hbool⟩, hinteger⟩, hfloat⟩, hzero⟩ := h
  simp [plainValue?, hempty, hnull, hbool, hinteger, hfloat, hzero]

namespace Node

theorem value?_ofText (s : String) : Value.ofNode? (ofText s) = some (.str s) := by
  rw [ofText, Value.ofNode?, Scalar.value?]
  by_cases hline : '\n' ∈ s.toList
  · rw [if_pos hline]
    rfl
  rw [if_neg hline]
  cases htyped : Scalar.isTyped s with
  | true => rfl
  | false => exact Scalar.plainValue?_of_not_isTyped htyped

theorem isNull?_ofText (s : String) : (ofText s).isNull? = some false := by
  rw [ofText]
  by_cases hline : '\n' ∈ s.toList
  · rw [if_pos hline]
    rfl
  rw [if_neg hline]
  cases htyped : Scalar.isTyped s with
  | true => rfl
  | false =>
    simp only [Scalar.isTyped, Bool.or_eq_false_iff] at htyped
    obtain ⟨⟨⟨⟨⟨hempty, hnull⟩, -⟩, -⟩, -⟩, -⟩ := htyped
    simp [isNull?, hnull, of_decide_eq_false hempty]

theorem text?_ofText (s : String) : (ofText s).text? = some s := rfl

theorem bool?_ofBool (b : Bool) : (ofBool b).bool? = some b := by
  cases b <;> rfl

theorem isNull?_ofNat (n : Nat) : (ofNat n).isNull? = some false := by
  have hstarts := (Scalar.unsigned_toDigits n).startsNumber false
  have hempty : String.ofList (Nat.toDigits 10 n) ≠ "" := Scalar.ofList_ne_empty hstarts
  have hnull : Scalar.isNull (String.ofList (Nat.toDigits 10 n)) = false :=
    Scalar.isNull_eq_false hstarts
  simp [ofNat, plain, isNull?, hempty, hnull]

theorem unsigned?_ofNat (n : UInt64) : (ofNat n.toNat).unsigned? = some n := by
  show (Scalar.unsigned? (String.ofList _).toList).bind _ = _
  rw [String.toList_ofList, Scalar.unsigned?_toDigits, Option.bind_some,
    if_pos n.toNat_lt_size, UInt64.ofNat_toNat]

end Node

/-! ## scalars -/

namespace Value

/-- `v` is written as a node of at most this depth, which is read as `v` -/
structure ReadsBack (v : Value) (depth : Nat) : Prop where
  value : ofNode? v.toNode = some v
  depth_le : v.toNode.depth ≤ depth

variable {depth : Nat}

theorem readsBack_null : ReadsBack .null depth := ⟨rfl, Nat.zero_le _⟩

theorem readsBack_bool (b : Bool) : ReadsBack (.bool b) depth := by
  refine ⟨?_, Nat.zero_le _⟩
  cases b <;> rfl

theorem readsBack_str (s : String) : ReadsBack (.str s) depth :=
  ⟨Node.value?_ofText s, Nat.zero_le _⟩

theorem readsBack_int (w : Whole) : ReadsBack (.num (.int w)) depth :=
  ⟨Scalar.plainValue?_whole w, Nat.zero_le _⟩

theorem readsBack_float {x : Binary64} (h : x.isNaN = true → x = .nan) :
    ReadsBack (.num (.float x)) depth :=
  ⟨Scalar.plainValue?_float h, Nat.zero_le _⟩

end Value

namespace Scalar

open Value (ReadsBack)

variable {depth : Nat}

theorem eq_nan_of_float? {s : List Char} {x : Binary64} (h : float? s = some x)
    (hnan : x.isNaN = true) : x = .nan := by
  simp only [float?] at h
  split at h
  · cases h
    cases hnan
  split at h
  · cases h
    cases hnan
  split at h
  · exact (Option.some.inj h).symm
  · obtain ⟨-, hfinite⟩ := Option.filter_eq_some_iff.1 h
    rw [Binary64.isFinite, decide_eq_true_eq] at hfinite
    rw [Binary64.isNaN, Bool.and_eq_true, beq_iff_eq] at hnan
    omega

theorem readsBack_of_float? {s : List Char} {x : Binary64} (h : float? s = some x) :
    ReadsBack (.num (.float x)) depth :=
  Value.readsBack_float (eq_nan_of_float? h)

theorem readsBack_of_intValue? {n : Int} {v : Value} (h : intValue? n = some v) :
    ReadsBack v depth := by
  obtain ⟨w, -, rfl⟩ := Option.map_eq_some_iff.1 h
  exact Value.readsBack_int w

theorem readsBack_of_plainValue? {s : String} {v : Value} (h : plainValue? s = some v) :
    ReadsBack v depth := by
  rw [plainValue?] at h
  split at h
  · cases h
    exact Value.readsBack_null
  split at h
  · cases h
    exact Value.readsBack_bool _
  · exact readsBack_of_intValue? h
  split at h
  · cases h
    exact Value.readsBack_str s
  split at h
  · cases h
    exact readsBack_of_float? ‹_›
  · cases h
    exact Value.readsBack_str s

theorem readsBack_of_value? {text : String} {style : ScalarStyle} {tag : Option String} {v : Value}
    (h : value? text style tag = some v) : ReadsBack v depth := by
  cases tag with
  | none =>
    rw [value?] at h
    split at h
    · exact readsBack_of_plainValue? h
    · cases h
      exact Value.readsBack_str text
  | some tag =>
    rw [value?] at h
    split at h
    · obtain ⟨b, -, rfl⟩ := Option.map_eq_some_iff.1 h
      exact Value.readsBack_bool b
    split at h
    · obtain ⟨n, -, hn⟩ := Option.bind_eq_some_iff.1 h
      exact readsBack_of_intValue? hn
    split at h
    · obtain ⟨x, hx, rfl⟩ := Option.map_eq_some_iff.1 h
      exact readsBack_of_float? hx
    split at h
    · split at h
      · cases h
        exact Value.readsBack_null
      · cases h
    split at h
    · cases h
    · cases h
      exact Value.readsBack_str text

end Scalar

/-! ## sequences and mappings -/

namespace Value

mutual
/-- **A value that was read from a node is read back from its own**, which is nested no deeper. -/
theorem readsBack_of_ofNode? : ∀ (n : Node) {v : Value}, ofNode? n = some v → ReadsBack v n.depth
  | .scalar text style tag, v, h => Scalar.readsBack_of_value? h
  | .sequence items tag, v, h => by
    rw [ofNode?] at h
    split at h
    · cases h
    obtain ⟨vs, hvs, rfl⟩ := Option.map_eq_some_iff.1 h
    obtain ⟨hread, hdepth⟩ := readsBack_of_ofItems? items hvs
    refine ⟨?_, ?_⟩
    · show (ofItems? (toNodes vs)).map seq = _
      rw [hread]
      rfl
    · exact Nat.succ_le_succ hdepth
  | .mapping entries tag, v, h => by
    rw [ofNode?] at h
    split at h
    · cases h
    obtain ⟨es, hes, h⟩ := Option.bind_eq_some_iff.1 h
    split at h
    · rename_i hkeys
      cases h
      obtain ⟨hread, hdepth⟩ := readsBack_of_ofEntries? entries hes
      refine ⟨?_, ?_⟩
      · show (ofEntries? (toPairs es)).bind _ = _
        rw [hread, Option.bind_some, if_pos hkeys]
      · exact Nat.succ_le_succ hdepth
    · cases h

theorem readsBack_of_ofItems? : ∀ (ns : List Node) {vs : List Value}, ofItems? ns = some vs →
    ofItems? (toNodes vs) = some vs ∧ Node.depthItems (toNodes vs) ≤ Node.depthItems ns
  | [], vs, h => by
    cases h
    exact ⟨rfl, Nat.le_refl _⟩
  | n :: ns, vs, h => by
    obtain ⟨v, hv, h⟩ := Option.bind_eq_some_iff.1 h
    obtain ⟨vs, hvs, rfl⟩ := Option.map_eq_some_iff.1 h
    obtain ⟨hread, hdepth⟩ := readsBack_of_ofNode? n hv
    obtain ⟨hreads, hdepths⟩ := readsBack_of_ofItems? ns hvs
    refine ⟨?_, ?_⟩
    · rw [toNodes, ofItems?, hread, hreads]
      rfl
    · rw [toNodes, Node.depthItems, Node.depthItems]
      omega

theorem readsBack_of_ofEntries? : ∀ (ns : List (Node × Node)) {es : List (Value × Value)},
    ofEntries? ns = some es →
      ofEntries? (toPairs es) = some es ∧ Node.depthEntries (toPairs es) ≤ Node.depthEntries ns
  | [], es, h => by
    cases h
    exact ⟨rfl, Nat.le_refl _⟩
  | (k, n) :: ns, es, h => by
    obtain ⟨key, hkey, h⟩ := Option.bind_eq_some_iff.1 h
    obtain ⟨v, hv, h⟩ := Option.bind_eq_some_iff.1 h
    obtain ⟨es, hes, rfl⟩ := Option.map_eq_some_iff.1 h
    obtain ⟨hreadKey, hdepthKey⟩ := readsBack_of_ofNode? k hkey
    obtain ⟨hread, hdepth⟩ := readsBack_of_ofNode? n hv
    obtain ⟨hreads, hdepths⟩ := readsBack_of_ofEntries? ns hes
    refine ⟨?_, ?_⟩
    · rw [toPairs, ofEntries?, hreadKey, Option.bind_some, hread, Option.bind_some, hreads]
      rfl
    · rw [toPairs, Node.depthEntries, Node.depthEntries]
      omega
end

end Value

end PromptDispatch.Yaml

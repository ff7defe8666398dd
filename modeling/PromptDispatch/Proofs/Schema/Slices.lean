import PromptDispatch.Proofs.Schema.Extraction
import PromptDispatch.Proofs.Text.Offsets

/-!
# The slices that a search for an object takes

The search for an object as it goes through bytes: marks are found as offsets, and each part is cut
out with `slice`, which can fail.  On the bytes of a text it never does, and the parts that it cuts
out are those that `fencedBlock` and `firstTo` find in the text.

* `fencedBlock_eq_some_iff`    which texts have a block, and which one;
* `blockOfBytes_encode`, `stretchOfBytes_encode`, `extractJsonOfBytes_encode`   no slice fails;
* `slices_of_text`             all of this for bytes that are well formed.
-/

namespace PromptDispatch

open Text (First Last BadSlice cutAt encode firstTo offset? lastOffset? slice)

/-! ## in a text -/

/-- the three searches for a block, one after the other -/
theorem fencedBlock_eq (s : List Char) :
    fencedBlock s = (cutAt fence s).bind fun c =>
      ((cutAt ['\n'] c.2).map Prod.snd).bind fun body => (cutAt fence body).map Prod.fst := by
  rw [fencedBlock]
  refine Option.bind_congr fun c _ => ?_
  obtain ⟨_, afterFence⟩ := c
  rw [Text.map_snd_cutAt_singleton]
  dsimp only
  cases afterFence.dropWhile (· ≠ '\n') <;> rfl

/-- A block stands between two fences, the second one searched for after the rest of the first one's
line. -/
theorem fencedBlock_eq_some_iff {s b : List Char} :
    fencedBlock s = some b ↔ ∃ x i y,
      s = x ++ (fence ++ (i ++ '\n' :: (b ++ (fence ++ y)))) ∧ First fence x s ∧ '\n' ∉ i ∧
        First fence b (b ++ (fence ++ y)) := by
  simp only [fencedBlock_eq, Option.bind_eq_some_iff, Option.map_eq_some_iff, Prod.exists]
  constructor
  · rintro ⟨x, after, hx, body, ⟨i, body', hi, rfl⟩, b', y, hb, rfl⟩
    obtain ⟨rfl, hfirst⟩ := Text.cutAt_eq_some_iff.1 hx
    obtain ⟨rfl, hline⟩ := Text.cutAt_singleton_eq_some_iff.1 hi
    obtain ⟨rfl, hclose⟩ := Text.cutAt_eq_some_iff.1 hb
    exact ⟨x, i, y, rfl, hfirst, hline, hclose⟩
  · rintro ⟨x, i, y, hs, hx, hi, hb⟩
    exact ⟨x, _, Text.cutAt_eq_some_iff.2 ⟨hs, hx⟩, _,
      ⟨i, _, Text.cutAt_singleton_eq_some_iff.2 ⟨rfl, hi⟩, rfl⟩, b, y,
      Text.cutAt_eq_some_iff.2 ⟨rfl, hb⟩, rfl⟩

/-! ## in bytes -/

/-- `fencedBlock` as it is found in bytes -/
def blockOfBytes (text : List UInt8) : Except BadSlice (Option (List UInt8)) :=
  match offset? (encode fence) text with
  | none => .ok none
  | some first =>
    (slice text (first + 3) text.length).bind fun afterFence =>
      match offset? (encode ['\n']) afterFence with
      | none => .ok none
      | some newline =>
        (slice afterFence (newline + 1) afterFence.length).bind fun body =>
          match offset? (encode fence) body with
          | none => .ok none
          | some close => (slice body 0 close).map some

def stretchOfBytes (text : List UInt8) : Except BadSlice (Option (List UInt8)) :=
  match offset? (encode ['{']) text, lastOffset? (encode ['}']) text with
  | some start, some last =>
    if last ≤ start then .ok none else (slice text start (last + 1)).map some
  | _, _ => .ok none

def extractJsonOfBytes (raw : List UInt8) : Except BadSlice (Option Json) :=
  let trim (bytes : List UInt8) := encode (Text.trim (Text.decodeLossy bytes))
  let parse (bytes : List UInt8) := Json.parseObject (Text.decodeLossy bytes)
  let text := trim raw
  match parse text with
  | some v => .ok (some v)
  | none =>
    (blockOfBytes text).bind fun block =>
      match block.bind fun b => parse (trim b) with
      | some v => .ok (some v)
      | none => (stretchOfBytes text).map fun stretch => stretch.bind parse

/-! ## no slice fails -/

theorem blockOfBytes_encode (s : List Char) :
    blockOfBytes (encode s) = .ok ((fencedBlock s).map encode) := by
  have hfence : fence ≠ [] := by decide
  rw [fencedBlock_eq, blockOfBytes, Text.offset?_encode hfence]
  cases hfirst : cutAt fence s with
  | none => rfl
  | some c =>
    obtain ⟨a, afterFence⟩ := c
    have hafter : slice (encode s) ((encode a).length + 3) (encode s).length =
        .ok (encode afterFence) := Text.slice_after hfirst
    simp only [Option.map_some, Option.bind_some, hafter, Except.bind]
    rw [Text.offset?_encode (List.cons_ne_nil _ _)]
    cases hline : cutAt ['\n'] afterFence with
    | none => rfl
    | some c =>
      obtain ⟨i, body⟩ := c
      have hbody : slice (encode afterFence) ((encode i).length + 1) (encode afterFence).length =
          .ok (encode body) := Text.slice_after hline
      simp only [Option.map_some, Option.bind_some, hbody]
      rw [Text.offset?_encode hfence]
      cases hclose : cutAt fence body with
      | none => rfl
      | some c =>
        simp only [Option.map_some, Text.slice_before hclose]
        rfl

theorem stretchOfBytes_encode (s : List Char) :
    stretchOfBytes (encode s) = .ok ((firstTo '{' '}' s).map encode) := by
  have hmark (c : Char) : [c] ≠ [] := List.cons_ne_nil c []
  rw [stretchOfBytes]
  split
  · rename_i start last hstart hlast
    obtain ⟨p, hp, rfl⟩ := (Text.offset?_encode_eq_some_iff (hmark _)).1 hstart
    obtain ⟨q, hq, rfl⟩ := (Text.lastOffset?_encode_eq_some_iff (hmark _)).1 hlast
    have hlength :=
      Text.length_encode_le_iff (Text.prefix_of_stands hq.stands) (Text.prefix_of_stands hp.stands)
    split
    · rename_i hle
      have hnone : firstTo '{' '}' s = none := by
        refine Text.firstTo_eq_none_iff.2 fun p' q' hp' hq' => ?_
        rw [← hp.unique hp', ← hq.unique hq']
        exact hlength.1 hle
      rw [hnone]
      rfl
    · rename_i hlt
      obtain ⟨m, r, rfl, rfl, hsome⟩ :=
        Text.firstTo_of_lt hp hq (Nat.lt_of_not_le (mt hlength.2 hlt))
      -- the last mark is one byte, and the stretch has it
      have hstop : (encode (p ++ '{' :: m)).length + 1 =
          (encode (p ++ '{' :: (m ++ ['}']))).length := by
        rw [← List.cons_append, ← List.append_assoc, Text.encode_append _ ['}'],
          List.length_append]
        rfl
      rw [hsome, hstop, Text.slice_encode]
      rfl
  · rename_i hmissing
    have hnone : firstTo '{' '}' s = none := by
      refine Text.firstTo_eq_none_iff.2 fun p q hp hq => ?_
      have hstart := (Text.offset?_encode_eq_some_iff (hmark '{')).2 ⟨p, hp, rfl⟩
      have hlast := (Text.lastOffset?_encode_eq_some_iff (hmark '}')).2 ⟨q, hq, rfl⟩
      exact (hmissing _ _ hstart hlast).elim
    rw [hnone]
    rfl

theorem extractJsonOfBytes_encode (s : List Char) :
    extractJsonOfBytes (encode s) = .ok (extractJson s) := by
  rw [extractJsonOfBytes, extractJson]
  simp only [Text.decodeLossy_encode, blockOfBytes_encode, stretchOfBytes_encode, Except.bind,
    Except.map, Option.bind_map, Function.comp_def]
  cases Json.parseObject (Text.trim s) with
  | some v => rfl
  | none =>
    cases (fencedBlock (Text.trim s)).bind fun b => Json.parseObject (Text.trim b) <;> rfl

/-- **No slice fails on bytes that are well formed.**  Each one is in order, in range and between
characters, and what is cut out are the block, the stretch and the object of the text.  The block is
what stands between the first fence and the first one after its line. -/
theorem slices_of_text {bytes : List UInt8} {s : List Char} (h : Text.decode? bytes = some s) :
    blockOfBytes bytes = .ok ((fencedBlock s).map encode) ∧
      stretchOfBytes bytes = .ok ((firstTo '{' '}' s).map encode) ∧
      extractJsonOfBytes bytes = .ok (extractJson s) ∧
      ∀ b, fencedBlock s = some b ↔ ∃ x i y,
        s = x ++ (fence ++ (i ++ '\n' :: (b ++ (fence ++ y)))) ∧ First fence x s ∧ '\n' ∉ i ∧
          First fence b (b ++ (fence ++ y)) := by
  obtain rfl := Text.encode_of_decode? h
  exact ⟨blockOfBytes_encode s, stretchOfBytes_encode s, extractJsonOfBytes_encode s,
    fun _ => fencedBlock_eq_some_iff⟩

/-- characters of two bytes, fences of four backticks, one of them at the end, and a brace that
closes nothing -/
theorem slices_of_text_multibyte :
    let s := "\x7dé````json\n\x7b\"k\":\"é\"\x7d````".toList
    Text.decode? (encode s) = some s ∧
      blockOfBytes (encode s) = .ok (some (encode "\x7b\"k\":\"é\"\x7d".toList)) ∧
      extractJsonOfBytes (encode s) = .ok (some (.obj [("k", .str "é")])) := by
  intro s
  have h : Text.decode? (encode s) = some s := by decide +kernel
  obtain ⟨hblock, -, hobject, -⟩ := slices_of_text h
  refine ⟨h, ?_, ?_⟩
  · rw [hblock]
    decide +kernel
  · rw [hobject]
    decide +kernel

end PromptDispatch

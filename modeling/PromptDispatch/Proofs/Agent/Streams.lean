import PromptDispatch.Proofs.Agent.Records
import PromptDispatch.Proofs.Json.Record

/-!
# Streams of values

The decoder of streams and the reader of values read the same lines.  A stream of objects is decoded
to as many records, however its lines end and whatever blanks stand between and around them.  A line
of another value is a fault of the stream at that line.

* `LineOf`, `StreamOf`         the texts that the lines of a stream hold;
* `decodeRecords_of_stream`    streams of objects;
* `decodeRecords_of_faulty_line`   a stream that is decoded up to a faulty line;
* `decodeRecords_agrees`       both of these for lines that have values.
-/

namespace PromptDispatch

/-! ## streams of texts -/

/-- the texts that a line holds: one between blanks, or none on a line of blanks -/
inductive LineOf : List (List Char) → List Char → Prop
  | blank {w : List Char} (hw : Text.isBlankText w = true) (hn : '\n' ∉ w) : LineOf [] w
  | text {a s b : List Char} (ha : Text.isBlankText a = true) (hb : Text.isBlankText b = true)
    (hn : '\n' ∉ a ++ (s ++ b)) : LineOf [s] (a ++ (s ++ b))

def lineEnds : List (List Char) := [['\n'], ['\r', '\n']]

/-- the texts that a stream holds, line after line; nothing need end the last one -/
inductive StreamOf : List (List Char) → List Char → Prop
  | last {ss l} (h : LineOf ss l) : StreamOf ss l
  | line {ss l e ss' r} (h : LineOf ss l) (he : e ∈ lineEnds) (hr : StreamOf ss' r) :
    StreamOf (ss ++ ss') (l ++ (e ++ r))

section
variable {ss : List (List Char)} {s l raw : List Char}

theorem LineOf.not_mem (h : LineOf ss l) : '\n' ∉ l := by
  cases h with
  | blank _ hn | text _ _ hn => exact hn

theorem LineOf.append_return (h : LineOf ss l) : LineOf ss (l ++ ['\r']) := by
  have hreturn {w : List Char} (hw : Text.isBlankText w = true) :
      Text.isBlankText (w ++ ['\r']) = true := by
    rw [Text.isBlankText, List.all_append, Bool.and_eq_true]
    exact ⟨hw, rfl⟩
  have hn : '\n' ∉ l ++ ['\r'] := by simpa using h.not_mem
  cases h with
  | blank hw _ => exact .blank (hreturn hw) hn
  | text ha hb _ =>
    simp only [List.append_assoc] at hn ⊢
    exact .text ha (hreturn hb) hn

theorem LineOf.trim_eq (h : LineOf [s] l) : Text.trim l = Text.trim s := by
  cases h with
  | text ha hb _ => exact Text.trim_around (List.all_eq_true.1 ha) (List.all_eq_true.1 hb) s

/-! ## single lines -/

theorem decodeRecords_of_line (hl : '\n' ∉ l) (hne : Text.trim l ≠ []) :
    decodeRecords l = decodeLines 1 [l] := by
  have hnil : l ≠ [] := fun e => hne (by rw [e, Text.trim_nil])
  rw [decodeRecords_eq, Text.linesWithEnds_of_line hnil fun h => hl (List.dropLast_subset l h)]

theorem decodeRecords_of_lineOf (h : LineOf ss l)
    (hss : ∀ s ∈ ss, ∃ v, Json.parseObject s = some v) : decodeRecords l = .ok ss.length := by
  cases h with
  | blank hw _ => exact decodeRecords_of_blanks hw
  | @text a s b ha hb hn =>
    have hl : LineOf [s] (a ++ (s ++ b)) := .text ha hb hn
    obtain ⟨v, hv⟩ := hss s List.mem_cons_self
    have hne : Text.trim (a ++ (s ++ b)) ≠ [] := by
      rw [hl.trim_eq]
      exact (Json.isObject_trim hv).trimmed.ne_nil
    have hrecord : Json.record (Text.trim (a ++ (s ++ b))) = .ok () := by
      rw [hl.trim_eq]
      exact Json.record_trim_of_parseObject hv
    rw [decodeRecords_of_line hn hne, decodeLines_cons_of_record hne hrecord]
    rfl

/-! ## streams -/

theorem decodeRecords_of_stream (h : StreamOf ss raw)
    (hss : ∀ s ∈ ss, ∃ v, Json.parseObject s = some v) : decodeRecords raw = .ok ss.length := by
  induction h with
  | last h => exact decodeRecords_of_lineOf h hss
  | @line ss l e ss' r h he _ ih =>
    -- the line with what is left of its end before the line feed
    obtain ⟨k, hk, hraw⟩ : ∃ k, LineOf ss k ∧ l ++ (e ++ r) = k ++ '\n' :: r := by
      simp only [lineEnds, List.mem_cons, List.not_mem_nil, or_false] at he
      rcases he with rfl | rfl
      · exact ⟨l, h, rfl⟩
      · exact ⟨l ++ ['\r'], h.append_return, by simp⟩
    have hline := decodeRecords_of_lineOf hk fun s hs => hss s (List.mem_append_left _ hs)
    have hrest := ih fun s hs => hss s (List.mem_append_right _ hs)
    rw [hraw, decodeRecords_append, hline, hrest, List.length_append]
    rfl

/-- a stream that is decoded up to a faulty line fails there -/
theorem decodeRecords_of_faulty_line {earlier later : List Char} {n : Nat}
    {fault : Json.RecordFault} (hl : '\n' ∉ l) (hne : Text.trim l ≠ [])
    (hfault : Json.record (Text.trim l) = .error fault) (hn : decodeRecords earlier = .ok n)
    (he : earlier = [] ∨ ∃ a, earlier = a ++ ['\n'])
    (hr : later = [] ∨ ∃ r, later = '\n' :: r) :
    decodeRecords (earlier ++ (l ++ later)) =
      .error (.decode (earlier.count '\n' + 1) (String.ofList (Text.trim l)) fault) := by
  have hline : decodeRecords l = .error (.decode 1 (String.ofList (Text.trim l)) fault) := by
    rw [decodeRecords_of_line hl hne, decodeLines_cons_of_fault hne hfault]
  have hlater : decodeRecords (l ++ later) =
      .error (.decode 1 (String.ofList (Text.trim l)) fault) := by
    rcases hr with rfl | ⟨r, rfl⟩
    · rw [List.append_nil, hline]
    · rw [decodeRecords_append, hline]
      rfl
  rcases he with rfl | ⟨a, rfl⟩
  · exact hlater
  · have ha : decodeRecords a = .ok n := by
      rwa [decodeRecords_eq, decodeLines_newline, ← decodeRecords_eq] at hn
    have hcount : (a ++ ['\n']).count '\n' + 1 = 1 + (a.count '\n' + 1) := by
      rw [List.count_append, List.count_singleton_self]
      omega
    rw [List.append_assoc, List.singleton_append, decodeRecords_append, ha, hlater, hcount]
    rfl

end

/-- **The decoder of streams agrees with the reader of values.**  A stream of objects, with line
feeds or carriage returns and line feeds at the ends of its lines, blank lines between them and
blanks around them, has as many records as objects.  A line whose value is no object, and not the
array without items, is where a stream fails that is decoded up to it. -/
theorem decodeRecords_agrees :
    (∀ ss raw, StreamOf ss raw → (∀ s ∈ ss, ∃ v, Json.parseObject s = some v) →
      decodeRecords raw = .ok ss.length) ∧
    ∀ s l v, LineOf [s] l → Json.parse s = some v → v.isObject = false → v ≠ .arr [] →
      ∀ earlier later n, decodeRecords earlier = .ok n →
        (earlier = [] ∨ ∃ a, earlier = a ++ ['\n']) →
        (later = [] ∨ ∃ r, later = '\n' :: r) →
        ∃ fault, decodeRecords (earlier ++ (l ++ later)) =
          .error (.decode (earlier.count '\n' + 1) (String.ofList (Text.trim l)) fault) := by
  refine ⟨fun ss raw h hss => decodeRecords_of_stream h hss, ?_⟩
  intro s l v hl hv hobject harray earlier later n hn he hr
  have hrecord : Json.record (Text.trim s) ≠ .ok () := by
    intro h
    rcases Json.of_record_trim hv h with e | e
    · exact Bool.false_ne_true (hobject.symm.trans e)
    · exact harray e
  have hne : Text.trim l ≠ [] := by
    rw [hl.trim_eq]
    exact Json.trim_ne_nil_of_parse hv
  cases hfault : Json.record (Text.trim l) with
  | ok u =>
    rw [hl.trim_eq] at hfault
    exact absurd hfault hrecord
  | error fault => exact ⟨fault, decodeRecords_of_faulty_line hl.not_mem hne hfault hn he hr⟩

/-- two objects behind blanks and around a blank line, and after them an array that has an item -/
theorem decodeRecords_agrees_endings :
    let first := "\x7b\"a\":[1,\x7b\x7d],\"a\":\"\\ud83d\\ude00\"\x7d".toList
    let stream := "\u00a0".toList ++ (first ++ "\t".toList) ++ ("\r\n".toList ++
      ([] ++ ("\n".toList ++ ([] ++ ("\x7b\x7d".toList ++ []) ++ ("\n".toList ++ [])))))
    decodeRecords stream = .ok 2 ∧
      ∃ fault, decodeRecords (stream ++ (" [[]]\r".toList ++ "\n42".toList)) =
        .error (.decode 4 "[[]]" fault) := by
  intro first stream
  have hstream : StreamOf ([first] ++ ([] ++ (["\x7b\x7d".toList] ++ []))) stream :=
    .line (.text rfl rfl (by decide +kernel)) (by decide)
      (.line (.blank rfl (by decide)) (by decide)
        (.line (.text rfl rfl (by decide)) (by decide) (.last (.blank rfl (by decide)))))
  have hobjects : ∀ s ∈ [first, "\x7b\x7d".toList], ∃ v, Json.parseObject s = some v := by
    have hall : ∀ s ∈ [first, "\x7b\x7d".toList], (Json.parseObject s).isSome = true := by
      decide +kernel
    exact fun s hs => Option.isSome_iff_exists.1 (hall s hs)
  have hdecoded : decodeRecords stream = .ok 2 := decodeRecords_agrees.1 _ _ hstream hobjects
  have hline : LineOf ["[[]]".toList] " [[]]\r".toList :=
    .text (a := [' ']) (b := ['\r']) rfl rfl (by decide)
  have hvalue : Json.parse "[[]]".toList = some (.arr [.arr []]) := by decide +kernel
  exact ⟨hdecoded, decodeRecords_agrees.2 "[[]]".toList " [[]]\r".toList (.arr [.arr []]) hline
    hvalue rfl (by decide) stream "\n42".toList 2 hdecoded (.inr ⟨stream.dropLast, by decide +kernel⟩)
    (.inr ⟨['4', '2'], rfl⟩)⟩

end PromptDispatch

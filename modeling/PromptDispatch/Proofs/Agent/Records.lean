import PromptDispatch.Agent.Records
import PromptDispatch.Proofs.Except
import PromptDispatch.Proofs.Text.Lines
import PromptDispatch.Proofs.Text.Trim

/-!
# One stream after another

A stream that follows another one after a line feed is decoded as it is alone, only with later line
numbers, and it is not looked at if the first one fails.  What is trimmed from a line does not
count, so that it does not matter how the lines of either stream end.

* `decodeLines_eq_ok_iff`, `decodeLines_eq_error_iff`   what the lines of a stream are;
* `decodeLines_append`        lines after other lines;
* `decodeRecords_eq`          the ends of lines do not count;
* `decodeRecords_append`      a stream after another one;
* `decodeRecords_concatenation`   all of these, as the answers of the streams.
-/

namespace PromptDispatch

/-- the failure with its line moved down -/
def Failure.later (k : Nat) : Failure → Failure
  | .decode line text fault => .decode (line + k) text fault
  | f => f

/-! ## one line -/

def Passes (l : List Char) : Prop := Text.trim l = [] ∨ Json.record (Text.trim l) = .ok ()

/-- a line of blanks alone is not counted -/
def isCounted (l : List Char) : Bool := !Text.isBlankText l

section
variable {n : Nat} {l : List Char} {ls : List (List Char)}

theorem isCounted_eq_false_iff : isCounted l = false ↔ Text.trim l = [] := by
  rw [isCounted, Bool.not_eq_false', Text.trim_eq_nil_iff]

theorem isCounted_iff : isCounted l = true ↔ Text.trim l ≠ [] := by
  rw [isCounted, Bool.not_eq_true', Text.trim_ne_nil_iff]

theorem decodeLines_cons_of_blank (h : Text.trim l = []) :
    decodeLines n (l :: ls) = decodeLines (n + 1) ls := by
  rw [decodeLines, h]
  rfl

theorem decodeLines_cons_of_record (h : Text.trim l ≠ [])
    (hr : Json.record (Text.trim l) = .ok ()) :
    decodeLines n (l :: ls) = (decodeLines (n + 1) ls).map (· + 1) := by
  rw [decodeLines]
  simp only [List.isEmpty_iff, if_neg h, hr]

theorem decodeLines_cons_of_fault {fault : Json.RecordFault} (h : Text.trim l ≠ [])
    (hr : Json.record (Text.trim l) = .error fault) :
    decodeLines n (l :: ls) = .error (.decode n (String.ofList (Text.trim l)) fault) := by
  rw [decodeLines]
  simp only [List.isEmpty_iff, if_neg h, hr]

theorem line_cases (l : List Char) :
    Text.trim l = [] ∨ (Text.trim l ≠ [] ∧ Json.record (Text.trim l) = .ok ()) ∨
      ∃ fault, Text.trim l ≠ [] ∧ Json.record (Text.trim l) = .error fault := by
  by_cases h : Text.trim l = []
  · exact .inl h
  · cases hr : Json.record (Text.trim l) with
    | ok u => exact .inr (.inl ⟨h, rfl⟩)
    | error fault => exact .inr (.inr ⟨fault, h, rfl⟩)

/-! ## what the lines of a stream are -/

/-- A stream is decoded if all of its lines pass, and those that are not blank are counted. -/
theorem decodeLines_eq_ok_iff {m : Nat} :
    decodeLines n ls = .ok m ↔ (∀ l ∈ ls, Passes l) ∧ m = ls.countP isCounted := by
  induction ls generalizing n m with
  | nil =>
    rw [decodeLines, Except.ok.injEq, List.countP_nil, eq_comm]
    exact ⟨fun h => ⟨nofun, h⟩, fun h => h.2⟩
  | cons l r ih =>
    rw [List.forall_mem_cons, List.countP_cons]
    rcases line_cases l with h | ⟨h, hr⟩ | ⟨fault, h, hr⟩
    · have hpasses : Passes l := .inl h
      rw [decodeLines_cons_of_blank h, ih, isCounted_eq_false_iff.2 h]
      simp [hpasses]
    · have hpasses : Passes l := .inr hr
      rw [decodeLines_cons_of_record h hr, Except.map_eq_ok_iff, isCounted_iff.2 h]
      simp only [ih, hpasses, if_true, true_and]
      constructor
      · rintro ⟨k, ⟨hall, rfl⟩, rfl⟩
        exact ⟨hall, rfl⟩
      · rintro ⟨hall, rfl⟩
        exact ⟨_, ⟨hall, rfl⟩, rfl⟩
    · have hstops : ¬Passes l := by
        rintro (hblank | hrecord)
        · exact h hblank
        · rw [hr] at hrecord
          cases hrecord
      rw [decodeLines_cons_of_fault h hr]
      simp [hstops]

/-- A stream fails at the first line that does not pass, by the number and the text of that line. -/
theorem decodeLines_eq_error_iff {f : Failure} :
    decodeLines n ls = .error f ↔
      ∃ before l after fault, ls = before ++ l :: after ∧ (∀ x ∈ before, Passes x) ∧
        Text.trim l ≠ [] ∧ Json.record (Text.trim l) = .error fault ∧
        f = .decode (n + before.length) (String.ofList (Text.trim l)) fault := by
  constructor
  · intro hf
    induction ls generalizing n with
    | nil => cases hf
    | cons l r ih =>
      -- the lines before the faulty one are those of the rest, and this one if it passes
      have hrest (hl : Passes l) (hf : decodeLines (n + 1) r = .error f) :
          ∃ before k after fault, l :: r = before ++ k :: after ∧ (∀ x ∈ before, Passes x) ∧
            Text.trim k ≠ [] ∧ Json.record (Text.trim k) = .error fault ∧
            f = .decode (n + before.length) (String.ofList (Text.trim k)) fault := by
        obtain ⟨before, k, after, fault, rfl, hbefore, hk, hfault, rfl⟩ := ih hf
        refine ⟨l :: before, k, after, fault, rfl, List.forall_mem_cons.2 ⟨hl, hbefore⟩, hk,
          hfault, ?_⟩
        rw [List.length_cons, Nat.add_assoc, Nat.add_comm 1]
      rcases line_cases l with h | ⟨h, hr⟩ | ⟨fault, h, hr⟩
      · rw [decodeLines_cons_of_blank h] at hf
        exact hrest (.inl h) hf
      · rw [decodeLines_cons_of_record h hr, Except.map_eq_error_iff] at hf
        exact hrest (.inr hr) hf
      · rw [decodeLines_cons_of_fault h hr] at hf
        cases hf
        exact ⟨[], l, r, fault, rfl, nofun, h, hr, rfl⟩
  · rintro ⟨before, l, after, fault, rfl, hbefore, hl, hfault, rfl⟩
    induction before generalizing n with
    | nil => exact decodeLines_cons_of_fault hl hfault
    | cons x before ih =>
      obtain ⟨hx, hbefore⟩ := List.forall_mem_cons.1 hbefore
      have hline : n + (x :: before).length = n + 1 + before.length := by
        rw [List.length_cons]
        omega
      rw [hline, List.cons_append]
      by_cases hblank : Text.trim x = []
      · rw [decodeLines_cons_of_blank hblank]
        exact ih hbefore
      · rw [decodeLines_cons_of_record hblank (hx.resolve_left hblank), Except.map_eq_error_iff]
        exact ih hbefore

end

/-! ## lines after other lines -/

/-- The lines after others are only decoded where those are, and are counted on from them. -/
theorem decodeLines_append (n : Nat) (a b : List (List Char)) :
    decodeLines n (a ++ b) =
      (decodeLines n a).bind fun i => (decodeLines (n + a.length) b).map (i + ·) := by
  induction a generalizing n with
  | nil =>
    show decodeLines n b = (decodeLines n b).map (0 + ·)
    cases decodeLines n b with
    | error f => rfl
    | ok m => exact congrArg Except.ok (Nat.zero_add m).symm
  | cons l a ih =>
    have hline : n + (l :: a).length = n + 1 + a.length := by
      rw [List.length_cons]
      omega
    rw [List.cons_append, hline]
    rcases line_cases l with h | ⟨h, hr⟩ | ⟨fault, h, hr⟩
    · rw [decodeLines_cons_of_blank h, decodeLines_cons_of_blank h, ih]
    · rw [decodeLines_cons_of_record h hr, decodeLines_cons_of_record h hr, ih]
      cases decodeLines (n + 1) a with
      | error f => rfl
      | ok i =>
        cases decodeLines (n + 1 + a.length) b with
        | error f => rfl
        | ok m =>
          have hsum : i + m + 1 = i + 1 + m := by omega
          exact congrArg Except.ok hsum
    · rw [decodeLines_cons_of_fault h hr, decodeLines_cons_of_fault h hr]
      rfl

theorem decodeLines_add (n k : Nat) (ls : List (List Char)) :
    decodeLines (n + k) ls = (decodeLines n ls).mapError (·.later k) := by
  induction ls generalizing n with
  | nil => rfl
  | cons l r ih =>
    have hnext : n + k + 1 = n + 1 + k := by omega
    rcases line_cases l with h | ⟨h, hr⟩ | ⟨fault, h, hr⟩
    · rw [decodeLines_cons_of_blank h, decodeLines_cons_of_blank h, hnext, ih]
    · rw [decodeLines_cons_of_record h hr, decodeLines_cons_of_record h hr, hnext, ih]
      cases decodeLines (n + 1) r <;> rfl
    · rw [decodeLines_cons_of_fault h hr, decodeLines_cons_of_fault h hr]
      rfl

/-! ## ends of lines -/

theorem Text.trim_lineText (l : List Char) : trim (lineText l) = trim l := by
  rw [lineText]
  split
  · rfl
  · rename_i k hk
    obtain rfl := dropLast?_eq_some_iff.1 hk
    have hend : trim (k ++ ['\n']) = trim k :=
      trim_append_of_blanks k (List.forall_mem_singleton.2 rfl)
    rw [hend]
    rcases dropLast?_getD '\r' k with h | h
    · rw [h]
    · have hreturn := trim_append_of_blanks ((dropLast? '\r' k).getD k) (b := ['\r'])
        (List.forall_mem_singleton.2 rfl)
      rw [← hreturn, ← h]

theorem decodeLines_congr {ls ls' : List (List Char)} (n : Nat)
    (h : ls.map Text.trim = ls'.map Text.trim) : decodeLines n ls = decodeLines n ls' := by
  induction ls generalizing n ls' with
  | nil =>
    rw [List.map_nil, eq_comm, List.map_eq_nil_iff] at h
    rw [h]
  | cons l r ih =>
    obtain ⟨l', r', rfl, hl, hr⟩ := List.map_eq_cons_iff.1 h.symm
    simp only [decodeLines, hl, ih _ hr.symm]

theorem decodeRecords_eq (raw : List Char) :
    decodeRecords raw = decodeLines 1 (Text.linesWithEnds raw) := by
  refine decodeLines_congr 1 ?_
  rw [Text.lines, List.map_map]
  exact List.map_congr_left fun l _ => Text.trim_lineText l

theorem decodeLines_newline (n : Nat) (s : List Char) :
    decodeLines n (Text.linesWithEnds (s ++ ['\n'])) = decodeLines n (Text.linesWithEnds s) := by
  induction s using Text.lineInduction generalizing n with
  | last l hl =>
    rw [Text.linesWithEnds_concat hl]
    by_cases hnil : l = []
    · rw [hnil]
      rfl
    · rw [Text.linesWithEnds_of_line hnil fun h => hl (List.dropLast_subset l h)]
      refine decodeLines_congr n (congrArg (fun t => [t]) ?_)
      exact Text.trim_append_of_blanks l (List.forall_mem_singleton.2 rfl)
  | line l r hl ih =>
    rw [List.append_assoc, List.cons_append, Text.linesWithEnds_append l (r ++ ['\n']),
      Text.linesWithEnds_append l r, decodeLines_append, decodeLines_append, ih]

/-! ## streams -/

/-- A stream after another one is only decoded where that is, with its lines numbered on. -/
theorem decodeRecords_append (a b : List Char) :
    decodeRecords (a ++ '\n' :: b) =
      (decodeRecords a).bind fun n =>
        ((decodeRecords b).mapError (·.later (a.count '\n' + 1))).map (n + ·) := by
  rw [decodeRecords_eq, decodeRecords_eq, decodeRecords_eq, Text.linesWithEnds_append,
    decodeLines_append, decodeLines_newline, Text.length_linesWithEnds, decodeLines_add]

theorem decodeRecords_of_blanks {w : List Char} (h : Text.isBlankText w = true) :
    decodeRecords w = .ok 0 := by
  have hblank : ∀ l ∈ Text.linesWithEnds w, Text.trim l = [] := fun l hl =>
    Text.trim_eq_nil_iff.2 <| List.all_eq_true.2 fun c hc => by
      rw [Text.isBlankText, ← Text.flatten_linesWithEnds w, List.all_eq_true] at h
      exact h c (List.mem_flatten_of_mem hl hc)
  rw [decodeRecords_eq, decodeLines_eq_ok_iff]
  refine ⟨fun l hl => .inl (hblank l hl), (List.countP_eq_zero.2 fun l hl => ?_).symm⟩
  rw [isCounted_eq_false_iff.2 (hblank l hl)]
  exact Bool.false_ne_true

/-- **Streams are decoded one after the other.**  A stream that fails fails in the same way
whatever follows it.  The records of two streams are counted together, and a failure of the second
one has the same text and cause, at the line that it has behind the first.  Blank lines are not
counted as records but have their numbers, and no failure is about one of them. -/
theorem decodeRecords_concatenation (a b : List Char) :
    (∀ f, decodeRecords a = .error f → decodeRecords (a ++ '\n' :: b) = .error f) ∧
      (∀ n m, decodeRecords a = .ok n → decodeRecords b = .ok m →
        decodeRecords (a ++ '\n' :: b) = .ok (n + m)) ∧
      (∀ n line text fault, decodeRecords a = .ok n →
        decodeRecords b = .error (.decode line text fault) →
        decodeRecords (a ++ '\n' :: b) =
          .error (.decode (line + 1 + a.count '\n') text fault)) ∧
      (∀ w, Text.isBlankText w = true → decodeRecords w = .ok 0) ∧
      (∀ n, decodeRecords a = .ok n → n = (Text.lines a).countP isCounted) ∧
      ∀ f, decodeRecords a = .error f →
        ∃ before l after fault, Text.lines a = before ++ l :: after ∧ isCounted l = true ∧
          f = .decode (before.length + 1) (String.ofList (Text.trim l)) fault := by
  refine ⟨fun f ha => ?_, fun n m ha hb => ?_, fun n line text fault ha hb => ?_,
    fun w => decodeRecords_of_blanks, fun n ha => ?_, fun f ha => ?_⟩
  · rw [decodeRecords_append, ha]
    rfl
  · rw [decodeRecords_append, ha, hb]
    rfl
  · have hline : line + (a.count '\n' + 1) = line + 1 + a.count '\n' := by omega
    rw [decodeRecords_append, ha, hb, ← hline]
    rfl
  · exact (decodeLines_eq_ok_iff.1 ha).2
  · obtain ⟨before, l, after, fault, hlines, -, hl, -, rfl⟩ := decodeLines_eq_error_iff.1 ha
    refine ⟨before, l, after, fault, hlines, isCounted_iff.2 hl, ?_⟩
    rw [Nat.add_comm]

/-- a first stream with a blank line and a carriage return before its end, and a second one that
fails behind a blank line -/
theorem decodeRecords_concatenation_endings :
    decodeRecords "\x7b\x7d\r\n \u00a0\r\n[]\r".toList = .ok 2 ∧
      decodeRecords
          ("\x7b\x7d\r\n \u00a0\r\n[]\r".toList ++ '\n' :: "\n42\n\x7b\x7d".toList) =
        .error (.decode 5 "42" .otherKind) := by
  have ha : decodeRecords "\x7b\x7d\r\n \u00a0\r\n[]\r".toList = .ok 2 := by decide +kernel
  have hb : decodeRecords "\n42\n\x7b\x7d".toList = .error (.decode 2 "42" .otherKind) := by
    decide +kernel
  obtain ⟨-, -, hfails, -⟩ := decodeRecords_concatenation
    "\x7b\x7d\r\n \u00a0\r\n[]\r".toList "\n42\n\x7b\x7d".toList
  exact ⟨ha, hfails 2 2 "42" .otherKind ha hb⟩

end PromptDispatch

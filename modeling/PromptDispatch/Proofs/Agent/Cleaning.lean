import Mathlib.Logic.ExistsUnique
import PromptDispatch.Proofs.Agent.Notices

/-!
# What cleaning leaves

A text is its lines one after the other, each with the end that it came with.  Cleaning leaves out
the lines that are the notice and keeps the others as they are, so that the lines of what is left
are again lines of the text.

* `isNotice_iff`           the four lines that are left out;
* `linesWithEnds_dropNotices`   the lines of a text without its notices;
* `dropNotices_by_lines`   cleaning, told by lines;
* `normalize_stable`       cleaning by the name of an agent, and a second time.
-/

namespace PromptDispatch

/-! ## the notice as a line -/

/-- the notice with all that may follow it on its line -/
def noticeLines : List (List Char) := Text.lineTails.map (credentialsNotice.toList ++ ·)

theorem lineBody_eq_notice_iff {l : List Char} :
    Text.lineBody l = credentialsNotice.toList ↔ l ∈ noticeLines := by
  rw [noticeLines, List.mem_map]
  constructor
  · intro h
    obtain ⟨e, he, hl⟩ := Text.exists_lineTail l
    exact ⟨e, he, by rw [hl, h]⟩
  · rintro ⟨e, he, rfl⟩
    exact Text.lineBody_append (by decide +kernel) (by decide +kernel) he

theorem isNotice_iff {l : List Char} : isNotice l = true ↔ l ∈ noticeLines :=
  beq_iff_eq.trans lineBody_eq_notice_iff

/-! ## the lines that stay -/

def keptLines (ls : List (List Char)) : List (List Char) := ls.filter fun l => l ∉ noticeLines

variable {ls : List (List Char)} {l : List Char}

theorem mem_keptLines : l ∈ keptLines ls ↔ l ∈ ls ∧ l ∉ noticeLines := by
  rw [keptLines, List.mem_filter, decide_eq_true_eq]

theorem keptLines_eq_self_iff : keptLines ls = ls ↔ ∀ l ∈ ls, l ∉ noticeLines := by
  rw [keptLines, List.filter_eq_self]
  simp only [decide_eq_true_eq]

theorem keptLines_keptLines (ls : List (List Char)) : keptLines (keptLines ls) = keptLines ls :=
  keptLines_eq_self_iff.2 fun _ h => (mem_keptLines.1 h).2

theorem lineList_keptLines (h : Text.LineList ls) : Text.LineList (keptLines ls) := h.filter _

theorem dropNotices_eq (s : List Char) :
    dropNotices s = (keptLines (Text.linesWithEnds s)).flatten := by
  have hsame : ∀ l ∈ Text.linesWithEnds s, (!isNotice l) = decide (l ∉ noticeLines) := by
    intro l _
    rw [Bool.eq_iff_iff, decide_eq_true_eq, ← isNotice_iff, Bool.not_eq_true', Bool.not_eq_true]
  rw [dropNotices, keptLines, List.filter_congr hsame]

/-- The lines that stay are the lines of what is left: each brings its own end, so that none of them
goes on into the next. -/
theorem linesWithEnds_dropNotices (s : List Char) :
    Text.linesWithEnds (dropNotices s) = keptLines (Text.linesWithEnds s) := by
  rw [dropNotices_eq]
  exact (lineList_keptLines (Text.lineList_linesWithEnds s)).linesWithEnds_flatten

theorem dropNotices_flatten (h : Text.LineList ls) :
    dropNotices ls.flatten = (keptLines ls).flatten := by
  rw [dropNotices_eq, h.linesWithEnds_flatten]

theorem dropNotices_eq_self_iff {s : List Char} :
    dropNotices s = s ↔ ∀ l ∈ Text.linesWithEnds s, l ∉ noticeLines := by
  rw [← keptLines_eq_self_iff]
  constructor
  · intro h
    rw [← linesWithEnds_dropNotices, h]
  · intro h
    rw [dropNotices_eq, h, Text.flatten_linesWithEnds]

theorem dropNotices_dropNotices (s : List Char) : dropNotices (dropNotices s) = dropNotices s := by
  rw [dropNotices_eq (dropNotices s), linesWithEnds_dropNotices, keptLines_keptLines,
    ← dropNotices_eq]

/-- **Cleaning drops whole lines.**  It goes through every end of line, and a single line is left
out exactly if it is the notice once a line feed and then one carriage return are taken from its
end.  Every text is cut into lines in one way; what is left of it are its other lines in order, each
with its own end, none of the lines of what is left is the notice, and a text stays as it is exactly
if no line of it is the notice. -/
theorem dropNotices_by_lines :
    (∀ a b : List Char, a = [] ∨ a.getLast? = some '\n' →
      dropNotices (a ++ b) = dropNotices a ++ dropNotices b) ∧
    (∀ l : List Char, '\n' ∉ l.dropLast →
      dropNotices l = (if Text.lineBody l = credentialsNotice.toList then [] else l) ∧
        (Text.lineBody l = credentialsNotice.toList ↔ l ∈ noticeLines)) ∧
    (∀ s : List Char, ∃! ls, Text.LineList ls ∧ ls.flatten = s) ∧
    (∀ ls, Text.LineList ls →
      Text.LineList (keptLines ls) ∧ dropNotices ls.flatten = (keptLines ls).flatten ∧
        (dropNotices ls.flatten = ls.flatten ↔ ∀ l ∈ ls, l ∉ noticeLines)) ∧
    (∀ s ls, Text.LineList ls → ls.flatten = dropNotices s → ∀ l ∈ ls, l ∉ noticeLines) := by
  refine ⟨fun a b ha => dropNotices_append ha b, ?_, ?_, ?_, ?_⟩
  · intro l hl
    refine ⟨?_, lineBody_eq_notice_iff⟩
    rw [dropNotices_of_line hl, isNotice]
    simp only [beq_iff_eq]
  · intro s
    refine ⟨Text.linesWithEnds s, Text.lineList_iff.2 rfl, fun ls h => ?_⟩
    exact Text.lineList_iff.1 h
  · intro ls h
    refine ⟨lineList_keptLines h, dropNotices_flatten h, ?_⟩
    rw [dropNotices_eq_self_iff, h.linesWithEnds_flatten]
  · intro s ls h hs l hl
    rw [Text.lineList_iff.1 ⟨h, hs⟩, linesWithEnds_dropNotices] at hl
    exact (mem_keptLines.1 hl).2

/-- notices with both ends and with none, a line that has one carriage return too many to be one,
and lines of other ends around them -/
def mixedLines : List (List Char) :=
  ["Loaded cached credentials.\r".toList ++ ['\n'], "first\r".toList ++ ['\n'],
    "Loaded cached credentials.\r\r".toList ++ ['\n'], "Loaded cached credentials.".toList ++ ['\n'],
    [] ++ ['\n'], "Loaded cached credentials.".toList]

theorem lineList_mixedLines : Text.LineList mixedLines :=
  .line (by decide +kernel) <| .line (by decide +kernel) <| .line (by decide +kernel) <|
    .line (by decide +kernel) <| .line (by decide +kernel) <|
    .last (by decide +kernel) (by decide +kernel)

theorem dropNotices_by_lines_mixed :
    dropNotices mixedLines.flatten =
        "first\r\nLoaded cached credentials.\r\r\n\n".toList ∧
      dropNotices ("first\r\n".toList ++ "Loaded cached credentials.".toList) =
        dropNotices "first\r\n".toList ++ dropNotices "Loaded cached credentials.".toList ∧
      dropNotices "Loaded cached credentials.\r".toList = [] ∧
      "first\r\n".toList ∉ noticeLines := by
  obtain ⟨happend, hline, -, hlines, hleft⟩ := dropNotices_by_lines
  refine ⟨?_, ?_, ?_, ?_⟩
  · rw [(hlines mixedLines lineList_mixedLines).2.1]
    decide +kernel
  · exact happend _ _ (.inr (by decide +kernel))
  · rw [(hline _ (by decide +kernel)).1]
    decide +kernel
  · have hkept := (hlines mixedLines lineList_mixedLines).1
    exact hleft mixedLines.flatten (keptLines mixedLines) hkept
      (hlines mixedLines lineList_mixedLines).2.1.symm _ (by decide +kernel)

/-! ## cleaning by the name of an agent -/

theorem normalize_eq (agent : String) (raw : List Char) :
    normalize agent raw = if agent = "gemini" then dropNotices raw else raw := by
  rw [normalize]
  cases h : AgentKind.ofName? agent with
  | none =>
    have hne : agent ≠ "gemini" := by
      rintro rfl
      exact absurd h (by decide +kernel)
    rw [if_neg hne]
  | some k =>
    obtain rfl : k.name = agent := AgentKind.name_of_ofName? h
    cases k <;> rfl

/-- **Cleaning a second time changes nothing**, whatever the name, and a name other than that of the
agent with the notice changes nothing at all.  For that agent the lines of what is left are the
lines that are not the notice, so that none is put together from what was around one. -/
theorem normalize_stable :
    (∀ agent raw, normalize agent (normalize agent raw) = normalize agent raw) ∧
    (∀ agent raw, agent ≠ "gemini" → normalize agent raw = raw) ∧
    (∀ ls, Text.LineList ls → normalize "gemini" ls.flatten = (keptLines ls).flatten ∧
      ∀ ls', Text.LineList ls' → ls'.flatten = normalize "gemini" ls.flatten →
        ls' = keptLines ls ∧ ∀ l ∈ ls', l ∉ noticeLines) := by
  refine ⟨?_, ?_, ?_⟩
  · intro agent raw
    simp only [normalize_eq]
    split
    · exact dropNotices_dropNotices raw
    · rfl
  · intro agent raw hagent
    rw [normalize_eq, if_neg hagent]
  · intro ls h
    rw [normalize_eq, if_pos rfl]
    refine ⟨dropNotices_flatten h, fun ls' h' hs => ?_⟩
    have hkept : ls' = keptLines ls := by
      rw [Text.lineList_iff.1 ⟨h', hs⟩, linesWithEnds_dropNotices, h.linesWithEnds_flatten]
    exact ⟨hkept, fun l hl => (mem_keptLines.1 (hkept ▸ hl)).2⟩

theorem normalize_stable_mixed :
    normalize "gemini" mixedLines.flatten =
        "first\r\nLoaded cached credentials.\r\r\n\n".toList ∧
      normalize "gemini" (normalize "gemini" mixedLines.flatten) =
        normalize "gemini" mixedLines.flatten ∧
      normalize "my-script" mixedLines.flatten = mixedLines.flatten := by
  obtain ⟨htwice, hother, hlines⟩ := normalize_stable
  refine ⟨?_, htwice _ _, hother _ _ (by decide)⟩
  rw [(hlines mixedLines lineList_mixedLines).1]
  decide +kernel

end PromptDispatch

import PromptDispatch.Proofs.Schema.Extraction

/-!
# The object of a text stands in it

Trimming, cutting a block out and taking the stretch between two braces leave a part of the text
each, so the object that a text holds is written in it from an opening brace to a closing one.

* `exists_isObject_infix`   a part of the text is the object;
* `Text.exists_positions`   where a part between two marks is;
* `extractJson_occurs`      what the text has to have for the object that is found, or for none.
-/

namespace PromptDispatch

/-! ## parts of a text -/

namespace Text

theorem trim_infix (s : List Char) : trim s <:+: s := by
  obtain ⟨a, b, hs, -, -⟩ := exists_trim s
  exact ⟨a, b, by rw [List.append_assoc, ← hs]⟩

theorem infix_of_firstTo {c d : Char} {s t : List Char} (h : firstTo c d s = some t) :
    t <:+: s := by
  obtain ⟨p, m, r, -, hs, -, -⟩ := exists_of_firstTo h
  exact ⟨p, r, by rw [List.append_assoc, ← hs]⟩

theorem exists_positions {c d : Char} {m s : List Char} (h : c :: (m ++ [d]) <:+: s) :
    ∃ i j : Nat, i < j ∧ s[i]? = some c ∧ s[j]? = some d ∧
      s.extract i (j + 1) = c :: (m ++ [d]) := by
  obtain ⟨a, b, rfl⟩ := h
  refine ⟨a.length, a.length + (m.length + 1), by omega, ?_, ?_, ?_⟩
  · simp
  · rw [List.append_assoc, List.getElem?_append_right (by omega), Nat.add_sub_cancel_left]
    simp
  · have hlength : a.length + (m.length + 1) + 1 - a.length = (c :: (m ++ [d])).length := by
      rw [List.length_cons, List.length_append, List.length_singleton]
      omega
    rw [List.append_assoc, List.extract_eq_take_drop, List.drop_left, hlength, List.take_left]

end Text

theorem infix_of_fencedBlock {s b : List Char} (h : fencedBlock s = some b) : b <:+: s := by
  obtain ⟨p, i, r, rfl, -, -, -⟩ := exists_of_fencedBlock h
  exact ⟨p ++ (fence ++ (i ++ ['\n'])), fence ++ r, by simp⟩

/-! ## the object -/

/-- The object that a text holds is a part of the text. -/
theorem exists_isObject_infix {raw : List Char} {v : Json} (h : extractJson raw = some v) :
    ∃ t, t <:+: raw ∧ Json.IsObject t v := by
  rcases cases_of_extractJson h with h | ⟨b, hb, h⟩ | ⟨t, ht, h⟩
  · exact ⟨_, Text.trim_infix raw, Json.isObject_of_trim h⟩
  · have hin : Text.trim b <:+: Text.trim raw :=
      (Text.trim_infix b).trans (infix_of_fencedBlock hb)
    exact ⟨_, hin.trans (Text.trim_infix raw), Json.isObject_of_trim h⟩
  · obtain ⟨p, m, r, hm, -, -, -⟩ := Text.exists_of_firstTo ht
    exact ⟨t, (Text.infix_of_firstTo ht).trans (Text.trim_infix raw), h, m, hm⟩

/-- **The object that is found in a text stands there**, from an opening brace to a later closing
one, and a text that is an object but for blanks around it holds that object.  A text without such
braces holds none. -/
theorem extractJson_occurs (raw : List Char) :
    (∀ v, extractJson raw = some v → v.isObject = true ∧
        ∃ i j : Nat, i < j ∧ raw[i]? = some '{' ∧ raw[j]? = some '}' ∧
          Json.parse (raw.extract i (j + 1)) = some v) ∧
      (∀ v, Json.parse (Text.trim raw) = some v → v.isObject = true → extractJson raw = some v) ∧
      ((∀ i j : Nat, i < j → raw[i]? = some '{' → raw[j]? ≠ some '}') →
        extractJson raw = none) := by
  have hoccurs : ∀ v, extractJson raw = some v → v.isObject = true ∧
      ∃ i j : Nat, i < j ∧ raw[i]? = some '{' ∧ raw[j]? = some '}' ∧
        Json.parse (raw.extract i (j + 1)) = some v := by
    intro v h
    obtain ⟨t, hin, hobj⟩ := exists_isObject_infix h
    obtain ⟨hparse, hv⟩ := Json.parseObject_eq_some_iff.1 hobj.parse
    obtain ⟨m, rfl⟩ := hobj.braces
    obtain ⟨i, j, hij, hi, hj, hslice⟩ := Text.exists_positions hin
    exact ⟨hv, i, j, hij, hi, hj, hslice ▸ hparse⟩
  refine ⟨hoccurs, fun v hparse hv => ?_, fun hnone => ?_⟩
  · show (Json.parseObject (Text.trim raw)).or _ = some v
    rw [Json.parseObject_eq_some_iff.2 ⟨hparse, hv⟩, Option.some_or]
  · refine Option.eq_none_iff_forall_ne_some.2 fun v h => ?_
    obtain ⟨-, i, j, hij, hi, hj, -⟩ := hoccurs v h
    exact hnone i j hij hi hj

/-- a block in which blanks that are no white space of JSON stand around the object -/
theorem extractJson_occurs_fenced :
    let raw := "\x7b```\n\u00a0\x7b\x7d\u2003``` \x7d".toList
    extractJson raw = some (.obj []) ∧ Json.parse (Text.trim raw) = none ∧
      ∃ i j : Nat, i < j ∧ raw[i]? = some '{' ∧ raw[j]? = some '}' ∧
        Json.parse (raw.extract i (j + 1)) = some (.obj []) := by
  intro raw
  have h : extractJson raw = some (.obj []) := by decide +kernel
  exact ⟨h, by decide +kernel, ((extractJson_occurs raw).1 _ h).2⟩

end PromptDispatch

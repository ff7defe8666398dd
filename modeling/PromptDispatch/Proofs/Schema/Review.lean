import PromptDispatch.Proofs.Schema.Validation
import PromptDispatch.Schema.Review

/-!
# Valid reviews and typed reviews

An output is a review if its object is valid for the descriptor of reviews and can then be read as
one.  What is valid has the values of a review in its members (`Review.Held`), so that the reading
can fail only where the score is an integer that does not fit (`ofMembers_of_held`).

* `exists_held`    what a valid output holds;
* `parse_of_held`  what is read of it;
* `parse_review`   the two gates together.
-/

namespace PromptDispatch

/-! ## members of valid objects -/

theorem FieldType.exists_str_of_admits {v : Json} (h : string.admits v = true) :
    ∃ s, v = .str s := by
  cases v with
  | str s => exact ⟨s, rfl⟩
  | _ => cases h

theorem FieldType.exists_int_of_admits {v : Json} (h : integer.admits v = true) :
    ∃ n, v = .num (.int n) := by
  cases v with
  | num n =>
    cases n with
    | int n => exact ⟨n, rfl⟩
    | float x => cases h
  | _ => cases h

namespace Descriptor

variable {d : Descriptor} {members : List (String × Json)} {f : FieldSpec}

theorem admits_of_validate (h : d.validate (.obj members) = .ok ()) (hf : f ∈ d.fields) {v : Json}
    (hv : members.lookup f.name = some v) : f.type.admits v = true :=
  ((validate_obj_eq_ok_iff.1 h).1 f hf).2 v hv

theorem exists_of_required (h : d.validate (.obj members) = .ok ()) (hf : f ∈ d.fields)
    (hrequired : f.required = true) :
    ∃ v, members.lookup f.name = some v ∧ f.type.admits v = true := by
  have hname := ((validate_obj_eq_ok_iff.1 h).1 f hf).1 hrequired
  obtain ⟨v, hv⟩ := Option.isSome_iff_exists.1 (Entries.lookup_isSome_iff.2 hname)
  exact ⟨v, hv, admits_of_validate h hf hv⟩

end Descriptor

/-! ## reviews -/

namespace Review

def descriptor (label : String) : Descriptor :=
  { label
    fields := [
      { name := "summary", type := .string },
      { name := "score", type := .integer },
      { name := "notes", type := .string, required := false }] }

/-- the values of a review stand in the members of an object; without notes there is no member -/
structure Held (members : List (String × Json)) (summary : String) (score : Whole)
    (notes : Option String) : Prop where
  summary : members.lookup "summary" = some (.str summary)
  score : members.lookup "score" = some (.num (.int score))
  notes : members.lookup "notes" = notes.map .str

variable {label : String} {raw : List Char} {members : List (String × Json)} {summary : String}
  {score : Whole} {notes : Option String}

theorem exists_held_of_validate (h : (descriptor label).validate (.obj members) = .ok ()) :
    ∃ summary score notes, Held members summary score notes := by
  obtain ⟨v, hsummary, hv⟩ := Descriptor.exists_of_required h
    (f := { name := "summary", type := .string }) (by simp [descriptor]) rfl
  obtain ⟨summary, rfl⟩ := FieldType.exists_str_of_admits hv
  obtain ⟨v, hscore, hv⟩ := Descriptor.exists_of_required h
    (f := { name := "score", type := .integer }) (by simp [descriptor]) rfl
  obtain ⟨score, rfl⟩ := FieldType.exists_int_of_admits hv
  cases hnotes : members.lookup "notes" with
  | none => exact ⟨summary, score, none, hsummary, hscore, hnotes⟩
  | some v =>
    have hv := Descriptor.admits_of_validate h
      (f := { name := "notes", type := .string, required := false }) (by simp [descriptor]) hnotes
    obtain ⟨notes, rfl⟩ := FieldType.exists_str_of_admits hv
    exact ⟨summary, score, some notes, hsummary, hscore, hnotes⟩

theorem exists_held {v : Json} (h : (descriptor label).validateOutput raw = .ok v) :
    ∃ members summary score notes, v = .obj members ∧ Held members summary score notes := by
  obtain ⟨-, hv⟩ := Descriptor.validateOutput_eq_ok_iff.1 h
  cases v with
  | obj members =>
    obtain ⟨summary, score, notes, hheld⟩ := exists_held_of_validate hv
    exact ⟨members, summary, score, notes, rfl, hheld⟩
  | _ => cases Descriptor.isObject_of_validate hv

/-! ## reading -/

/-- Of the values of a review only a score can be out of range. -/
theorem ofMembers_of_held (h : Held members summary score notes) :
    ofMembers members =
      if score.val < 0x8000000000000000 then .ok { summary, score := Int64.ofInt score.val, notes }
      else .error (.range score "i64") := by
  have hnotes : member members "notes" Json.asOptionalText = .ok (notes.map some) := by
    rw [member, h.notes]
    cases notes <;> rfl
  have hscore : member members "score" Json.asInt64 =
      if score.val < 0x8000000000000000 then .ok (some (Int64.ofInt score.val))
      else .error (.range score "i64") := by
    rw [member, h.score]
    exact apply_ite (Except.map some) _ _ _
  have hsummary : member members "summary" Json.asText = .ok (some summary) := by
    rw [member, h.summary]
    rfl
  rw [ofMembers, hnotes, hscore, hsummary]
  split
  · cases notes <;> rfl
  · rfl

theorem parse_of_held (h : (descriptor label).validateOutput raw = .ok (.obj members))
    (hheld : Held members summary score notes) :
    (descriptor label).parse ofJson raw =
      if score.val < 0x8000000000000000 then .ok { summary, score := Int64.ofInt score.val, notes }
      else .error (.violation label [.unreadable (.range score "i64")]) := by
  have hread : ofJson (.obj members) = _ := ofMembers_of_held hheld
  rw [Descriptor.parse, h]
  show (ofJson (.obj members)).mapError _ = _
  rw [hread]
  split <;> rfl

theorem lt_iff_le_maxValue (n : Int) : n < 0x8000000000000000 ↔ n ≤ Int64.maxValue.toInt := by
  rw [Int64.toInt_maxValue]
  omega

/-- what is read is the review that a valid output holds -/
theorem held_of_parse {r : Review} (h : (descriptor label).parse ofJson raw = .ok r) :
    ∃ members score, (descriptor label).validateOutput raw = .ok (.obj members) ∧
      Held members r.summary score r.notes ∧ r.score.toInt = score.val := by
  obtain ⟨v, hv, -⟩ := Except.bind_eq_ok_iff.1 h
  obtain ⟨members, summary, score, notes, rfl, hheld⟩ := exists_held hv
  rw [parse_of_held hv hheld] at h
  split at h
  · rename_i hfits
    cases h
    exact ⟨members, score, hv, hheld, Int64.toInt_ofInt_of_le score.low hfits⟩
  · cases h

theorem exists_parse_iff :
    (∃ r, (descriptor label).parse ofJson raw = .ok r) ↔
      ∃ members score, (descriptor label).validateOutput raw = .ok (.obj members) ∧
        members.lookup "score" = some (.num (.int score)) ∧
        score.val ≤ Int64.maxValue.toInt := by
  constructor
  · rintro ⟨r, h⟩
    obtain ⟨members, score, hv, hheld, hscore⟩ := held_of_parse h
    exact ⟨members, score, hv, hheld.score, hscore ▸ r.score.toInt_le⟩
  · rintro ⟨members, score, hv, hscore, hfits⟩
    obtain ⟨_, summary, score', notes, ⟨⟩, hheld⟩ := exists_held hv
    obtain rfl : score' = score := by
      have hsame := hheld.score.symm.trans hscore
      cases hsame
      rfl
    rw [parse_of_held hv hheld, if_pos ((lt_iff_le_maxValue _).2 hfits)]
    exact ⟨_, rfl⟩

end Review

open Review in
/-- **A review is read of an output exactly if the output is valid and its score fits**, and it has
the values of the object, with notes if these are there.  An output that is not valid is refused as
validation refuses it, and a valid one whose score does not fit is refused for that alone. -/
theorem parse_review (label : String) (raw : List Char) :
    ((∃ r, (descriptor label).parse ofJson raw = .ok r) ↔
        ∃ members score, (descriptor label).validateOutput raw = .ok (.obj members) ∧
          members.lookup "score" = some (.num (.int score)) ∧
          score.val ≤ Int64.maxValue.toInt) ∧
      (∀ r, (descriptor label).parse ofJson raw = .ok r →
        ∃ members score, (descriptor label).validateOutput raw = .ok (.obj members) ∧
          Held members r.summary score r.notes ∧ r.score.toInt = score.val) ∧
      (∀ f, (descriptor label).validateOutput raw = .error f →
        (descriptor label).parse ofJson raw = .error f) ∧
      ∀ v, (descriptor label).validateOutput raw = .ok v → ∃ members score, v = .obj members ∧
        members.lookup "score" = some (.num (.int score)) ∧
        (Int64.maxValue.toInt < score.val → (descriptor label).parse ofJson raw =
          .error (.violation label [.unreadable (.range score "i64")])) := by
  refine ⟨exists_parse_iff, fun r h => held_of_parse h, fun f h => ?_, fun v h => ?_⟩
  · rw [Descriptor.parse, h]
    rfl
  · obtain ⟨members, summary, score, notes, rfl, hheld⟩ := exists_held h
    refine ⟨members, score, rfl, hheld.score, fun hlarge => ?_⟩
    have hfits : ¬score.val < 0x8000000000000000 := fun hlt =>
      absurd ((lt_iff_le_maxValue _).1 hlt) (Int.not_le.2 hlarge)
    rw [parse_of_held h hheld, if_neg hfits]

/-- the least score that is valid and does not fit -/
theorem parse_review_limit :
    let raw := "\x7b\"score\":9223372036854775808,\"summary\":\"\"\x7d".toList
    let score : Whole := ⟨0x8000000000000000, by decide, by decide⟩
    (Review.descriptor "review").validateOutput raw =
        .ok (.obj [("score", .num (.int score)), ("summary", .str "")]) ∧
      (Review.descriptor "review").parse Review.ofJson raw =
        .error (.violation "review" [.unreadable (.range score "i64")]) := by
  intro raw score
  have h : (Review.descriptor "review").validateOutput raw =
      .ok (.obj [("score", .num (.int score)), ("summary", .str "")]) :=
    Descriptor.validateOutput_eq_ok_iff.2 ⟨by decide +kernel, rfl⟩
  obtain ⟨-, -, -, hvalid⟩ := parse_review "review" raw
  obtain ⟨_, _, ⟨⟩, ⟨⟩, hlarge⟩ := hvalid _ h
  exact ⟨h, hlarge (by decide)⟩

end PromptDispatch

import Mathlib.Data.List.Infix
import PromptDispatch.Proofs.Agent.Notices
import PromptDispatch.Proofs.Schema.Extraction
import PromptDispatch.Proofs.Schema.Validation

/-!
# Cleaning and the result in an output

Dropping the notices costs no result: what `extractJson` finds in a text it finds as well in the
text without its notices (`extractJson_dropNotices`).  An object stays because a notice would begin
a line of it, and no line of an object begins with a letter `L`; nothing else is found before it,
because no brace and no fence is put together around it.
-/

namespace PromptDispatch

open Json (IsObject)

/-! ## stretches that stay -/

theorem unbroken_of_isObject {t : List Char} {v : Json} (h : IsObject t v) : Unbroken t := by
  rw [Unbroken, List.isChain_iff_forall_rel_of_append_cons_cons]
  rintro c d x y e rfl rfl
  obtain ⟨ms, hrun⟩ := h.run
  rw [e] at hrun
  obtain ⟨st, -, hb, hr⟩ := Json.State.exists_between_of_newline hrun id
  have hl := Json.State.startsToken_of_run_blanks (b := []) hb
    (fun c hc => absurd hc List.not_mem_nil) rfl hr
  exact absurd hl (by decide)

theorem anchored_of_isObject {t : List Char} {v : Json} (h : IsObject t v) : Anchored t := by
  obtain ⟨m, hm⟩ := h.braces
  exact ⟨⟨'{', m, '}', hm, by decide +kernel, by decide +kernel⟩, unbroken_of_isObject h⟩

/-- a block with an object in it stays, with its fences -/
theorem anchored_of_fenced {i b : List Char} {v : Json} (hi : '\n' ∉ i)
    (hv : Json.parseObject (Text.trim b) = some v) :
    Anchored (fence ++ (i ++ '\n' :: (b ++ fence))) := by
  have hobj := Json.isObject_of_trim hv
  obtain ⟨m, hm⟩ := hobj.braces
  obtain ⟨a, a', hsplit, ha, ha'⟩ := Text.exists_trim_append b
  have hend : 'L' ∉ a' ++ fence := fun h =>
    (List.mem_append.1 h).elim (Text.not_mem_of_blanks rfl ha') (by decide)
  have hafter : Unbroken (Text.trim b ++ (a' ++ fence)) :=
    (unbroken_of_isObject hobj).append (unbroken_of_not_mem hend) fun e =>
      hend (List.mem_of_mem_head? e)
  have hbody : Unbroken ('\n' :: (b ++ fence)) := by
    have hbefore : 'L' ∉ '\n' :: a := fun h =>
      (List.mem_cons.1 h).elim (by decide) (Text.not_mem_of_blanks rfl ha)
    rw [hsplit, ← List.cons_append]
    refine (unbroken_of_not_mem hbefore).append hafter fun e => ?_
    rw [hm, List.cons_append, List.head?_cons] at e
    exact absurd (Option.some.inj e) (by decide)
  refine ⟨⟨'`', ['`', '`'] ++ (i ++ '\n' :: (b ++ ['`', '`'])), '`', by simp [fence],
    by decide +kernel, by decide +kernel⟩, ?_⟩
  exact Unbroken.append_left newline_not_mem_fence (Unbroken.append_left hi hbody)

/-! ## the object of a text without its notices -/

theorem extractJson_dropNotices_around {p t s : List Char} {v : Json} (ht : IsObject t v)
    (hp : '{' ∉ p) (hs : '}' ∉ s) : extractJson (dropNotices (p ++ (t ++ s))) = some v := by
  obtain ⟨p', s', hd, hw, hsub⟩ := (anchored_of_isObject ht).exists_around p s
  have hp' : '{' ∉ p' := fun hc => by
    have hin := hw ['{'] (by decide) ((List.singleton_infix_iff '{' p').2 hc)
    exact hp ((List.singleton_infix_iff '{' p).1 hin)
  rw [hd]
  exact extractJson_around ht hp' fun hc => hs (hsub.subset hc)

theorem extractJson_dropNotices_fenced {p i b : List Char} {v : Json} (hp : ¬fence <:+: p)
    (hi : '\n' ∉ i) (hb : ¬fence <:+: b) (hv : Json.parseObject (Text.trim b) = some v)
    (s : List Char) :
    extractJson (dropNotices (p ++ ((fence ++ (i ++ '\n' :: (b ++ fence))) ++ s))) = some v := by
  obtain ⟨p', s', hd, hw, -⟩ := (anchored_of_fenced hi hv).exists_around p s
  have hp' : ¬fence <:+: p' := fun h => hp (hw fence newline_not_mem_fence h)
  have h := extractJson_fenced hp' hi hb hv s'
  rw [hd]
  simpa using h

/-- dropping the notices neither loses nor changes the object of a text -/
theorem extractJson_dropNotices {raw : List Char} {v : Json} (h : extractJson raw = some v) :
    extractJson (dropNotices raw) = some v := by
  obtain ⟨a, b, hraw, ha, hb⟩ := Text.exists_trim raw
  rcases cases_of_extractJson h with h | ⟨k, hk, hv⟩ | ⟨t, ht, hv⟩
  · rw [hraw]
    exact extractJson_dropNotices_around (Json.isObject_of_trim h) (Text.not_mem_of_blanks rfl ha)
      (Text.not_mem_of_blanks rfl hb)
  · obtain ⟨p, i, r, hs, hp, hi, hf⟩ := exists_of_fencedBlock hk
    have hsplit : raw = (a ++ p) ++ ((fence ++ (i ++ '\n' :: (k ++ fence))) ++ (r ++ b)) := by
      rw [hraw, hs]
      simp
    have haf : ∀ c ∈ a, c ∉ fence := fun c hc =>
      not_mem_fence fun e => absurd (e ▸ ha c hc) (by decide)
    have hap : ¬fence <:+: a ++ p := fun h =>
      hp (Text.infix_of_infix_append_right (by decide) haf h)
    rw [hsplit]
    exact extractJson_dropNotices_fenced hap hi hf hv (r ++ b)
  · obtain ⟨p, m, r, hm, hs, hp, hr⟩ := Text.exists_of_firstTo ht
    have hobj := Json.isObject_trim hv
    rw [hm, Text.trim_eq_self (Text.Trimmed.bracket rfl rfl m), ← hm] at hobj
    have hsplit : raw = (a ++ p) ++ (t ++ (r ++ b)) := by
      rw [hraw, hs]
      simp
    have hap : '{' ∉ a ++ p := fun h =>
      (List.mem_append.1 h).elim (Text.not_mem_of_blanks rfl ha) hp
    have hrb : '}' ∉ r ++ b := fun h =>
      (List.mem_append.1 h).elim hr (Text.not_mem_of_blanks rfl hb)
    rw [hsplit]
    exact extractJson_dropNotices_around hobj hap hrb

/-- **Cleaning costs no result**: the object of a text is there without the notices, and a valid
output is valid after cleaning, with the same value. -/
theorem results_stay (d : Descriptor) (raw : List Char) (v : Json) :
    (extractJson raw = some v → extractJson (dropNotices raw) = some v) ∧
      (d.validateOutput raw = .ok v → d.validateOutput (normalize "gemini" raw) = .ok v) := by
  have hclean : normalize "gemini" raw = dropNotices raw := rfl
  refine ⟨extractJson_dropNotices, fun h => ?_⟩
  obtain ⟨hobj, hvalid⟩ := Descriptor.validateOutput_eq_ok_iff.1 h
  rw [hclean]
  exact Descriptor.validateOutput_eq_ok_iff.2 ⟨extractJson_dropNotices hobj, hvalid⟩

/-- with a notice before the object and one after it -/
theorem results_stay_between_notices :
    extractJson (dropNotices
        "Loaded cached credentials.\n\x7b\n\x7d\nLoaded cached credentials.\n".toList) =
      some (.obj []) ∧
    Descriptor.validateOutput { label := "empty" } (normalize "gemini"
        "Loaded cached credentials.\n\x7b\n\x7d\nLoaded cached credentials.\n".toList) =
      .ok (.obj []) := by
  have h : extractJson
      "Loaded cached credentials.\n\x7b\n\x7d\nLoaded cached credentials.\n".toList =
      some (.obj []) := by
    decide +kernel
  have hvalid : Descriptor.validate { label := "empty" } (.obj []) = .ok () := rfl
  exact ⟨(results_stay { label := "empty" } _ _).1 h,
    (results_stay _ _ _).2 (Descriptor.validateOutput_eq_ok_iff.2 ⟨h, hvalid⟩)⟩

end PromptDispatch

import PromptDispatch.Proofs.Invocation.Courses
import PromptDispatch.Proofs.Words.Quoting

/-!
# Command lines that are shown

A command line is shown with a placeholder for its prompt.  It is read back as its words and the
placeholder, so that no two command lines are shown alike, in a failure or elsewhere:

* `split_renderRedacted`, `renderRedacted_injective`   what is shown of words;
* `shown_of_execute`, `shown_of_executeCommand`   what is shown in the failure of an invocation;
* `commandLine_shown`   that it is read back, in all of these places.
-/

namespace PromptDispatch

/-! ## words and the placeholder -/

/-- The placeholder stands after the words as one more of them, also where there are none. -/
theorem toList_renderRedacted (argv : List String) :
    (renderRedacted argv).toList =
      [' '].intercalate ((argv.map String.toList).map Words.quote ++ [promptPlaceholder.toList]) := by
  unfold renderRedacted
  by_cases h : argv = []
  · subst h
    rfl
  · have hwords : argv.map String.toList ≠ [] := by simpa using h
    have hjoin : (Words.join (argv.map String.toList)).isEmpty = false :=
      List.isEmpty_eq_false_iff.2 (mt Words.join_eq_nil_iff.1 hwords)
    rw [Words.intercalate_concat (by simpa using h)]
    simp only [hjoin, String.toList_append, String.toList_ofList, List.append_assoc]
    rfl

theorem writes_placeholder : Words.Writes promptPlaceholder.toList promptPlaceholder.toList :=
  Words.writes_plain (by decide) (List.all_eq_true.1 (by decide))

theorem split_renderRedacted (argv : List String) :
    Words.split (renderRedacted argv).toList =
      some ((argv ++ [promptPlaceholder]).map String.toList) := by
  rw [toList_renderRedacted, List.map_append]
  exact Words.split_intercalate
    (List.rel_append (Words.forall₂_writes_quote _) (.cons writes_placeholder .nil))

theorem renderRedacted_injective : Function.Injective renderRedacted := by
  intro argv argv' h
  have hsplit := split_renderRedacted argv
  rw [h, split_renderRedacted, Option.some.injEq] at hsplit
  have hwords := List.map_injective_iff.2 (fun _ _ => String.toList_inj.1) hsplit
  exact (List.append_cancel_right hwords).symm

/-! ## failures -/

def Failure.shown? : Failure → Option String
  | .execution _ command _ _ | .cancelled _ command | .timedOut _ command _ => some command
  | _ => none

theorem Launch.Fails.shown? {l : Launch} {f : Failure} (h : l.Fails f) :
    f.shown? = some l.display := by
  cases h with
  | failed fault output => rfl
  | interrupted reason => cases reason <;> rfl

section
variable {resolver : Resolver} {s : Surroundings} {ambient : List RawVariable}
  {agent command prompt : String} {overrides : Dict String} {ws : List String} {f : Failure}
  {shown : String}

theorem shown_of_execute (hwords : resolver agent command .oneShot = .ok ws)
    (h : (execute resolver s ambient agent command prompt overrides).1 = .error f)
    (hshown : f.shown? = some shown) : shown = renderRedacted ws := by
  have hcourse := execution resolver s ambient agent command prompt overrides
  generalize execute resolver s ambient agent command prompt overrides = t at h hcourse
  cases hcourse with
  | invalid e htexts =>
    cases h
    obtain ⟨field, rfl⟩ := validation_of_checkAgentTexts htexts
    cases hshown
  | refused e htexts hrefused => cases hwords.symm.trans hrefused
  | wordless =>
    cases h
    cases hshown
  | launched l program words htexts hprogram hl =>
    cases hwords.symm.trans hprogram
    have hfails : l.Fails f := Launch.fails_of_run (Except.map_eq_error_iff.1 h)
    rw [hfails.shown?, hl] at hshown
    exact (Option.some.inj hshown).symm

theorem shown_of_executeCommand
    (h : (executeCommand s ambient command prompt overrides).1 = .error f)
    (hshown : f.shown? = some shown) :
    shown = renderRedacted ((Text.words command.toList).map String.ofList) := by
  have hcourse := commandExecution s ambient command prompt overrides
  generalize executeCommand s ambient command prompt overrides = t at h hcourse
  cases hcourse with
  | invalid e htexts =>
    cases h
    obtain ⟨field, rfl⟩ := validation_of_checkCommandTexts htexts
    cases hshown
  | wordless =>
    cases h
    cases hshown
  | launched l program words htexts hprogram hl =>
    rw [(Launch.fails_of_run h).shown?, hl] at hshown
    rw [hprogram]
    exact (Option.some.inj hshown).symm

end

/-- **A command line that is shown is read back**: as its words, whatever their characters are, and
the placeholder.  Different words are shown differently, and the command line in the failure of an
invocation tells the words that the prompt was put after. -/
theorem commandLine_shown :
    (∀ argv : List String, Words.split (renderRedacted argv).toList =
      some ((argv ++ [promptPlaceholder]).map String.toList)) ∧
    Function.Injective renderRedacted ∧
    (∀ (resolver : Resolver) s ambient agent command prompt overrides ws f shown,
      resolver agent command .oneShot = .ok ws →
      (execute resolver s ambient agent command prompt overrides).1 = .error f →
      f.shown? = some shown →
        Words.split shown.toList = some ((ws ++ [promptPlaceholder]).map String.toList)) ∧
    (∀ s ambient command prompt overrides f shown,
      (executeCommand s ambient command prompt overrides).1 = .error f →
      f.shown? = some shown →
        Words.split shown.toList =
          some (Text.words command.toList ++ [promptPlaceholder.toList])) := by
  refine ⟨split_renderRedacted, renderRedacted_injective, ?_, ?_⟩
  · intro resolver s ambient agent command prompt overrides ws f shown hwords h hshown
    rw [shown_of_execute hwords h hshown]
    exact split_renderRedacted ws
  · intro s ambient command prompt overrides f shown h hshown
    rw [shown_of_executeCommand h hshown, split_renderRedacted]
    simp

/-- a quote, a line feed and an empty word before a prompt that is not shown -/
theorem commandLine_shown_quoted :
    let ws := ["it's\n", "", "-p"]
    Words.split (renderRedacted ws).toList =
        some ["it's\n".toList, [], "-p".toList, "<prompt>".toList] ∧
      (execute (fun _ _ _ => .ok ws) { spawn := fun _ => .error .notFound } [] "agent" "x" "secret"
          .empty).1 = .error (.execution "agent" "'it'\\''s\n' '' -p <prompt>" (.spawn .notFound) "") ∧
      Words.split "'it'\\''s\n' '' -p <prompt>".toList =
        some ["it's\n".toList, [], "-p".toList, "<prompt>".toList] := by
  intro ws
  obtain ⟨hsplit, -, hshown, -⟩ := commandLine_shown
  have hfails : (execute (fun _ _ _ => .ok ws) { spawn := fun _ => .error .notFound } [] "agent" "x"
      "secret" .empty).1 =
        .error (.execution "agent" "'it'\\''s\n' '' -p <prompt>" (.spawn .notFound) "") := by
    decide +kernel
  exact ⟨hsplit ws, hfails, hshown _ _ _ _ _ _ _ ws _ _ rfl hfails rfl⟩

end PromptDispatch

import PromptDispatch.Proofs.Json.Printed
import PromptDispatch.Proofs.Program.Checking
import PromptDispatch.Proofs.Schema.Extraction

/-!
# What is printed of an output is printed of itself

The object that an output holds is printed as a text that is this object and nothing else, so that
it is found in the first attempt and is valid as it was before.  Only integers are written as they
are read; a binary64 number is left out here.

* `validateOutput_printed`   a printed object is valid;
* `printed_fixed_point`      both commands print it again.
-/

namespace PromptDispatch.Program

variable {d : Descriptor} {raw : List Char} {v : Json}

theorem toList_printed (v : Json) : (printed v).toList = Json.prettyAt 0 v ++ ['\n'] := by
  rw [printed, Json.pretty, String.toList_append, String.toList_ofList]
  rfl

theorem validateOutput_printed (h : d.validateOutput raw = .ok v) (hv : v.isIntegral = true) :
    d.validateOutput (printed v).toList = .ok v := by
  obtain ⟨hextract, hvalid⟩ := Descriptor.validateOutput_eq_ok_iff.1 h
  obtain ⟨s, hs⟩ := exists_parseObject hextract
  obtain ⟨hparse, hobject⟩ := Json.parseObject_eq_some_iff.1 hs
  have hprinted : Json.parseObject (printed v).toList = some v := by
    rw [Json.parseObject_eq_some_iff, toList_printed]
    exact ⟨Json.parse_pretty hparse hv, hobject⟩
  exact Descriptor.validateOutput_eq_ok_iff.2 ⟨extractJson_of_parseObject hprinted, hvalid⟩

theorem answer_eq_printed {text : String} (h : d.validateOutput text.toList = .ok v) :
    answer (some d) text = .ok (printed v) := by
  rw [answer, h]
  rfl

/-- **Printed results are fixed points.**  Where an output holds a valid object without a binary64
number in it, the text that is printed of it holds the same object and is valid by the same schema.
A run with the schema and a validation both print that text of the output, and a validation prints
it again of itself. -/
theorem printed_fixed_point (h : d.validateOutput raw = .ok v) (hv : v.isIntegral = true) :
    d.validateOutput (printed v).toList = .ok v ∧
      ∀ (o : Outside) (c : Config) (r : Registry) (label : String),
        c.registry = .ok r → r.lookup label = some d →
        (∀ (path : Option String) (verbose : Bool) (q : RunRequest),
          loadConfig o path = .ok c → q.schema = none →
          let plain := outcome o { config := path, verbose, action := .run q }
          let checked :=
            outcome o { config := path, verbose, action := .run { q with schema := some label } }
          plain.fault = none → plain.written.toList = raw →
          checked.written = printed v ∧ checked.fault = none) ∧
        ∀ (q : Request) (file : Option String) (text : String),
          loadConfig o q.config = .ok c → q.action = .validateSchema label file →
          o.document file = .ok text → text.toList = raw ∨ text = printed v →
          (outcome o q).written = printed v ∧ (outcome o q).fault = none := by
  have hprinted := validateOutput_printed h hv
  refine ⟨hprinted, fun o c r label hr hd => ⟨?_, ?_⟩⟩
  · intro path verbose q hconfig hschema plain checked hfault hraw
    have hanswer : answer (some d) plain.written = .ok (printed v) :=
      answer_eq_printed (hraw ▸ h)
    exact (answers_checked verbose hconfig hr hd hschema hfault).written _ hanswer
  · intro q file text hconfig haction hdocument htext
    have hanswer : answer (some d) text = .ok (printed v) := by
      rcases htext with rfl | rfl
      · exact answer_eq_printed h
      · exact answer_eq_printed hprinted
    exact (answers_validated hconfig hr hd haction hdocument).written _ hanswer

/-- an object after a mark, with another mark and braces in a text of it, a control character, empty
containers, a repeated name and the integers at both ends of what 64 bits hold -/
theorem printed_fixed_point_nested :
    let d : Descriptor :=
      { label := "note", fields := [{ name := "text", type := .string }, { name := "more" }] }
    let numbers := "[-9223372036854775808, 18446744073709551615, 0]"
    let nested := "[" ++ numbers ++ ", [], \x7b\x7d, \x7b\"\\u00e9\\n\": null, \"b\": true\x7d]"
    let text := "\"\\\"\x7d \\\\ \\u0001\\ud83d\\ude00 ```\x7b\""
    let raw := "Here:\n```\n\x7b\"text\": 0, \"more\": " ++ nested ++ ", \"text\": " ++ text ++
      "\x7d\n"
    let v : Json := .obj
      [("more", .arr
        [.arr [.num (.int ⟨-9223372036854775808, by decide, by decide⟩),
          .num (.int ⟨18446744073709551615, by decide, by decide⟩),
          .num (.int ⟨0, by decide, by decide⟩)], .arr [], .obj [],
          .obj [("b", .bool true), ("é\n", .null)]]),
        ("text", .str "\"\x7d \\ \x01😀 ```\x7b")]
    let config := "schemas:\n note:\n  fields:\n  - name: text\n    type: string\n  - name: more\n"
    let o : Outside :=
      { pathExists := fun path => path = "agentshot.yaml"
        readFile := fun path => .ok (if path = "agentshot.yaml" then config else raw)
        input := .ok (printed v)
        vars := []
        surroundings := fun _ => { spawn := fun _ => .error .notFound } }
    d.validateOutput raw.toList = .ok v ∧ v.isIntegral = true ∧
      d.validateOutput (printed v).toList = .ok v ∧
      (outcome o { action := .validateSchema "note" (some "output.txt") }).written = printed v ∧
      (outcome o { action := .validateSchema "note" none }).written = printed v := by
  intro d numbers nested text raw v config o
  have h : d.validateOutput raw.toList = .ok v := by decide +kernel
  have hv : v.isIntegral = true := by decide +kernel
  have hloaded : (loadConfig o none).map (fun c => c.registry.map (·.lookup "note")) =
      .ok (.ok (some d)) := by
    decide +kernel
  obtain ⟨c, hc, hregistry⟩ := Except.map_eq_ok_iff.1 hloaded
  obtain ⟨r, hr, hd⟩ := Except.map_eq_ok_iff.1 hregistry
  obtain ⟨hprinted, hprogram⟩ := printed_fixed_point h hv
  obtain ⟨-, hvalidation⟩ := hprogram o c r "note" hr hd
  have hfile : o.document (some "output.txt") = .ok raw :=
    congrArg Except.ok (if_neg (by decide))
  obtain ⟨hfirst, -⟩ := hvalidation { action := .validateSchema "note" (some "output.txt") }
    (some "output.txt") raw hc rfl hfile (.inl rfl)
  obtain ⟨hsecond, -⟩ := hvalidation { action := .validateSchema "note" none } none (printed v)
    hc rfl rfl (.inr rfl)
  exact ⟨h, hv, hprinted, hfirst, hsecond⟩

end PromptDispatch.Program

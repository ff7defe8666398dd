import PromptDispatch.Proofs.Json.Object
import PromptDispatch.Proofs.Text.Search
import PromptDispatch.Schema.Extraction

/-!
# Which object a text holds

A search for marks knows nothing of JSON strings, so a block may begin inside of an object.  What
keeps it from being taken for another one is that a block begins after a line feed, which no string
of an object has in it, and ends before a backtick, which stands only in strings.

* `fencedBlock_append`, `exists_of_fencedBlock`   the first block of a text;
* `eq_of_fenced_in_object`        a block inside of an object is that object or none;
* `extractJson_around`            an object in a text whose other braces face away from it;
* `extractJson_fenced`            an object in the first block.
-/

namespace PromptDispatch

open Json (IsObject)

/-! ## blocks -/

theorem newline_not_mem_fence : '\n' ∉ fence := by decide

theorem not_mem_fence {c : Char} (h : c ≠ '`') : c ∉ fence := by
  simp [fence, h]

theorem fence_not_infix_of_not_mem {s : List Char} (h : '`' ∉ s) : ¬fence <:+: s := fun hf =>
  h (hf.subset List.mem_cons_self)

theorem fencedBlock_append {p i b : List Char} (hp : ¬fence <:+: p) (hi : '\n' ∉ i)
    (hb : ¬fence <:+: b) (hl : b.getLast? ≠ some '`') (r : List Char) :
    fencedBlock (p ++ (fence ++ (i ++ '\n' :: (b ++ (fence ++ r))))) = some b := by
  obtain ⟨a, q, e, -, -, he, -, hcut⟩ :=
    Text.cutAt_append hp (i ++ '\n' :: (b ++ (fence ++ r)))
  have hei : '\n' ∉ e ++ i := fun h =>
    (List.mem_append.1 h).elim (fun h => newline_not_mem_fence (he.subset h)) hi
  have hbl : ∀ c ∈ b.getLast?, c ∉ fence := fun c hc =>
    not_mem_fence fun e => hl (e ▸ Option.mem_def.1 hc)
  have hline : (e ++ (i ++ '\n' :: (b ++ (fence ++ r)))).dropWhile (· ≠ '\n') =
      '\n' :: (b ++ (fence ++ r)) := by
    rw [← List.append_assoc]
    exact Text.dropWhile_ne_append hei _
  rw [fencedBlock, hcut, Option.bind_some]
  simp only [hline]
  rw [Text.cutAt_append_self hb hbl]
  rfl

theorem exists_of_fencedBlock {s b : List Char} (h : fencedBlock s = some b) :
    ∃ p i r, s = p ++ (fence ++ (i ++ '\n' :: (b ++ (fence ++ r)))) ∧ ¬fence <:+: p ∧
      '\n' ∉ i ∧ ¬fence <:+: b := by
  obtain ⟨⟨p, a⟩, ha, h⟩ := Option.bind_eq_some_iff.1 h
  dsimp only at h
  split at h
  · cases h
  · rename_i c body hd
    obtain ⟨⟨b', r⟩, hb, e⟩ := Option.map_eq_some_iff.1 h
    obtain rfl : b' = b := e
    obtain ⟨i, rfl, hi⟩ := Text.exists_dropWhile_ne hd
    have hs := Text.append_of_cutAt ha
    have hbody := Text.append_of_cutAt hb
    refine ⟨p, i, r, ?_, Text.not_infix_of_cutAt (by decide) ha, hi,
      Text.not_infix_of_cutAt (by decide) hb⟩
    rw [hs, hbody]
    simp

/-! ## objects inside of objects -/

/-- what stands from a `{` to a `}` in a text does not reach into its ends without these -/
theorem exists_inside {p t s a b c : List Char} {m : List Char} (hb : b = '{' :: (m ++ ['}']))
    (hp : '{' ∉ p) (hs : '}' ∉ s) (h : p ++ (t ++ s) = a ++ (b ++ c)) :
    ∃ x y, t = x ++ (b ++ y) ∧ a = p ++ x ∧ c = y ++ s := by
  have hx : ∃ x, a = p ++ x ∧ t ++ s = x ++ (b ++ c) := by
    rcases List.append_eq_append_iff.1 h with ⟨x, ha, hx⟩ | ⟨z, rfl, hz⟩
    · exact ⟨x, ha, hx⟩
    · cases z with
      | nil => exact ⟨[], by simp, by simpa using hz.symm⟩
      | cons d z =>
        rw [hb] at hz
        obtain ⟨rfl, -⟩ := List.cons.inj hz
        exact absurd (List.mem_append_right a List.mem_cons_self) hp
  obtain ⟨x, ha, hx⟩ := hx
  rw [← List.append_assoc] at hx
  rcases List.append_eq_append_iff.1 hx with ⟨z, hz, rfl⟩ | ⟨y, rfl, hy⟩
  · rcases List.eq_nil_or_concat z with rfl | ⟨z', d, rfl⟩
    · exact ⟨x, [], by simpa using hz.symm, ha, by simp⟩
    · rw [hb, List.concat_eq_append, ← List.cons_append, ← List.append_assoc,
        ← List.append_assoc] at hz
      obtain ⟨-, hd⟩ := List.append_inj' hz rfl
      obtain rfl := List.singleton_inj.1 hd
      exact absurd (List.mem_append_left c (by simp)) hs
  · exact ⟨x, y, by simp, ha, hy⟩

theorem eq_nil_or_backtick {x y a r s : List Char} {v : Json} (h : IsObject (x ++ y) v)
    (hy : a ++ '`' :: r = y ++ s) (ha : ∀ c ∈ a, Text.isBlank c = true) :
    y = [] ∨ ∃ z, y = a ++ '`' :: z := by
  rcases List.append_eq_append_iff.1 hy with ⟨z, rfl, hz⟩ | ⟨z, rfl, -⟩
  · cases z with
    | nil => exact .inl (h.eq_nil_of_blanks (by simpa using ha))
    | cons d z =>
      obtain ⟨rfl, -⟩ := List.cons.inj hz
      exact .inr ⟨z, rfl⟩
  · exact .inl (h.eq_nil_of_blanks fun c hc => ha c (List.mem_append_left z hc))

/-- An object in a block that begins or ends inside of an object is that object.  Before the block's
object is a line feed, and after it a backtick. -/
theorem eq_of_fenced_in_object {p t s x b y u a a' r : List Char} {v w : Json}
    (ht : IsObject t v) (hb : IsObject b w) (he : t = x ++ (b ++ y))
    (hx : u ++ '\n' :: a = p ++ x) (ha : ∀ c ∈ a, Text.isBlank c = true)
    (hy : a' ++ '`' :: r = y ++ s) (ha' : ∀ c ∈ a', Text.isBlank c = true) : w = v := by
  have hy' : y = [] ∨ ∃ z, y = a' ++ '`' :: z := by
    rw [he, ← List.append_assoc] at ht
    exact eq_nil_or_backtick ht hy ha'
  cases x with
  | nil =>
    -- both objects begin at one brace, and none goes on after its end
    rw [List.nil_append] at he
    subst he
    obtain rfl := hb.eq_nil_of_append ht
    rw [List.append_nil] at ht
    exact Option.some.inj (hb.parse.symm.trans ht.parse)
  | cons c x =>
    obtain ⟨m, hm⟩ := ht.braces
    obtain rfl : '{' = c := (List.cons.inj (hm.symm.trans he)).1
    rcases List.append_eq_append_iff.1 hx with ⟨z, rfl, hz⟩ | ⟨z, -, hz⟩
    · -- the outer object's brace would stand among the blanks
      have hmem : '{' ∈ '\n' :: a := hz ▸ List.mem_append_right z List.mem_cons_self
      rcases List.mem_cons.1 hmem with h | h
      · exact absurd h (by decide)
      · exact absurd (ha _ h) (by decide)
    · -- the line feed stands in the outer object, so the inner one is a value there
      obtain ⟨ms, hrun⟩ := ht.run
      rw [he, hz, List.append_assoc, List.cons_append] at hrun
      obtain ⟨tree, k, hk, hstart⟩ := hb.run_after_newline ha hrun id
      rcases hy' with rfl | ⟨z', rfl⟩
      · obtain ⟨rfl, -⟩ := Json.State.place_eq_root (Option.some.inj hk)
        cases z with
        | nil => cases hz
        | cons d z =>
          obtain ⟨rfl, -⟩ := List.cons.inj hz
          exact absurd (hstart rfl '{' List.mem_cons_self) (by decide)
      · have hplace := Json.State.isBetween_place tree k
        have h := Json.State.startsToken_of_run_blanks hplace ha' rfl hk
        exact absurd h (by decide)

/-! ## the three attempts -/

theorem extractJson_eq_some {raw : List Char} {v : Json}
    (hwhole : ∀ w, Json.parseObject (Text.trim raw) = some w → w = v)
    (hblock : ∀ b w, fencedBlock (Text.trim raw) = some b →
      Json.parseObject (Text.trim b) = some w → w = v)
    (hstretch : (Text.firstTo '{' '}' (Text.trim raw)).bind Json.parseObject = some v) :
    extractJson raw = some v := by
  show (Json.parseObject (Text.trim raw)).or (Option.or _ _) = some v
  cases h₁ : Json.parseObject (Text.trim raw) with
  | some w => rw [Option.some_or, hwhole w h₁]
  | none =>
    rw [Option.none_or]
    cases h₂ : (fencedBlock (Text.trim raw)).bind fun b => Json.parseObject (Text.trim b) with
    | some w =>
      obtain ⟨b, hb, hw⟩ := Option.bind_eq_some_iff.1 h₂
      rw [Option.some_or, hblock b w hb hw]
    | none => rw [Option.none_or, hstretch]

theorem extractJson_of_parseObject {raw : List Char} {v : Json}
    (h : Json.parseObject raw = some v) : extractJson raw = some v := by
  show (Json.parseObject (Text.trim raw)).or _ = some v
  rw [(Json.isObject_trim h).parse, Option.some_or]

/-- where the object of a text is looked for -/
theorem cases_of_extractJson {raw : List Char} {v : Json} (h : extractJson raw = some v) :
    Json.parseObject (Text.trim raw) = some v ∨
      (∃ b, fencedBlock (Text.trim raw) = some b ∧ Json.parseObject (Text.trim b) = some v) ∨
      ∃ t, Text.firstTo '{' '}' (Text.trim raw) = some t ∧ Json.parseObject t = some v := by
  rcases Option.or_eq_some_iff.1 h with h | ⟨-, h⟩
  · exact .inl h
  rcases Option.or_eq_some_iff.1 h with h | ⟨-, h⟩
  · exact .inr (.inl (Option.bind_eq_some_iff.1 h))
  · exact .inr (.inr (Option.bind_eq_some_iff.1 h))

theorem exists_parseObject {raw : List Char} {v : Json} (h : extractJson raw = some v) :
    ∃ s, Json.parseObject s = some v := by
  rcases cases_of_extractJson h with h | ⟨block, -, h⟩ | ⟨stretch, -, h⟩
  · exact ⟨_, h⟩
  · exact ⟨_, h⟩
  · exact ⟨stretch, h⟩

theorem eq_of_isObject_around {p t s : List Char} {v w : Json} (ht : IsObject t v) (hp : '{' ∉ p)
    (hs : '}' ∉ s) (hw : IsObject (p ++ (t ++ s)) w) : w = v := by
  obtain ⟨m, hm⟩ := hw.braces
  have hin : p ++ (t ++ s) = [] ++ ((p ++ (t ++ s)) ++ []) := by
    rw [List.append_nil, List.nil_append]
  obtain ⟨x, y, he, hx, hy⟩ := exists_inside hm hp hs hin
  obtain ⟨rfl, rfl⟩ := List.append_eq_nil_iff.1 hx.symm
  obtain ⟨rfl, rfl⟩ := List.append_eq_nil_iff.1 hy.symm
  rw [List.nil_append, List.append_nil] at hw
  exact Option.some.inj (hw.parse.symm.trans ht.parse)

theorem eq_of_fencedBlock_around {p t s b : List Char} {v w : Json} (ht : IsObject t v)
    (hp : '{' ∉ p) (hs : '}' ∉ s) (hb : fencedBlock (p ++ (t ++ s)) = some b)
    (hw : Json.parseObject (Text.trim b) = some w) : w = v := by
  obtain ⟨q, i, r, hq, -, -, -⟩ := exists_of_fencedBlock hb
  obtain ⟨a, a', hsplit, ha, ha'⟩ := Text.exists_trim_append b
  have hobj := Json.isObject_of_trim hw
  obtain ⟨m, hm⟩ := hobj.braces
  have hin : p ++ (t ++ s) =
      ((q ++ fence ++ i) ++ '\n' :: a) ++ (Text.trim b ++ (a' ++ (fence ++ r))) := by
    rw [hq, hsplit]
    simp
  obtain ⟨x, y, he, hx, hy⟩ := exists_inside hm hp hs hin
  exact eq_of_fenced_in_object ht hobj he hx ha hy ha'

/-- an object is found if no `{` is before it and no `}` after it -/
theorem extractJson_around {p t s : List Char} {v : Json} (ht : IsObject t v) (hp : '{' ∉ p)
    (hs : '}' ∉ s) : extractJson (p ++ (t ++ s)) = some v := by
  have htrim := Text.trim_append ht.trimmed p s
  have hp' : '{' ∉ Text.trimStart p := fun h => hp (Text.mem_trimStart h)
  have hs' : '}' ∉ Text.trimEnd s := fun h => hs (Text.mem_trimEnd h)
  apply extractJson_eq_some
  · intro w hw
    have hobj := Json.isObject_of_trim hw
    rw [htrim] at hobj
    exact eq_of_isObject_around ht hp' hs' hobj
  · intro b w hb hw
    rw [htrim] at hb
    exact eq_of_fencedBlock_around ht hp' hs' hb hw
  · obtain ⟨m, hm⟩ := ht.braces
    rw [htrim, hm, Text.firstTo_append hp' hs', ← hm]
    exact ht.parse

theorem parseObject_of_fenced {p b s : List Char} {v : Json}
    (hv : Json.parseObject (Text.trim b) = some v) :
    Json.parseObject (p ++ '\n' :: (b ++ (fence ++ s))) = none := by
  have hobj := Json.isObject_of_trim hv
  obtain ⟨a, a', hsplit, ha, ha'⟩ := Text.exists_trim_append b
  cases h : Json.parseObject (p ++ '\n' :: (b ++ (fence ++ s))) with
  | none => rfl
  | some w =>
    obtain ⟨ms, hrun⟩ := Json.run_of_parseObject h
    rw [hsplit] at hrun
    obtain ⟨tree, k, hk, -⟩ := hobj.run_after_newline ha hrun id
    have h := Json.State.startsToken_of_run_blanks (Json.State.isBetween_place tree k) ha' rfl hk
    exact absurd h (by decide)

theorem extractJson_fenced {p i b : List Char} {v : Json} (hp : ¬fence <:+: p) (hi : '\n' ∉ i)
    (hb : ¬fence <:+: b) (hv : Json.parseObject (Text.trim b) = some v) (s : List Char) :
    extractJson (p ++ (fence ++ (i ++ '\n' :: (b ++ (fence ++ s))))) = some v := by
  have hl : b.getLast? ≠ some '`' := by
    intro h
    obtain ⟨m, hm⟩ := (Json.isObject_of_trim hv).braces
    have h' := Text.getLast?_trim h rfl
    rw [hm, ← List.cons_append, List.getLast?_concat] at h'
    exact absurd (Option.some.inj h') (by decide)
  have htrim : Text.trim (p ++ (fence ++ (i ++ '\n' :: (b ++ (fence ++ s))))) =
      Text.trimStart p ++ (fence ++ (i ++ '\n' :: (b ++ (fence ++ Text.trimEnd s)))) := by
    have hm : Text.Trimmed (fence ++ (i ++ '\n' :: (b ++ fence))) := by
      have h := Text.Trimmed.bracket (c := '`') (d := '`') rfl rfl
        (['`', '`'] ++ (i ++ '\n' :: (b ++ ['`', '`'])))
      simpa [fence] using h
    simpa using Text.trim_append hm p s
  have hp' : ¬fence <:+: Text.trimStart p := fun h =>
    hp (h.trans (List.dropWhile_suffix Text.isBlank).isInfix)
  have hwhole : Json.parseObject
      (Text.trimStart p ++ (fence ++ (i ++ '\n' :: (b ++ (fence ++ Text.trimEnd s))))) = none := by
    have h := parseObject_of_fenced (p := Text.trimStart p ++ fence ++ i) (s := Text.trimEnd s) hv
    simpa using h
  show (Json.parseObject (Text.trim _)).or (Option.or _ _) = some v
  rw [htrim, hwhole, Option.none_or, fencedBlock_append hp' hi hb hl, Option.bind_some, hv,
    Option.some_or]

/-! ## objects in other text -/

/-- **An object is found in any text that has no `{` before it and no `}` after it**: fences
around it, and fences in its strings, do not hide it. -/
theorem extractJson_embedded {p t s : List Char} {v : Json} (ht : Json.parseObject t = some v)
    (hopen : t.head? = some '{') (hclose : t.getLast? = some '}') (hp : '{' ∉ p) (hs : '}' ∉ s) :
    extractJson (p ++ t ++ s) = some v := by
  have htrimmed : Text.Trimmed t := by
    refine ⟨fun e => ?_, fun c hc => ?_, fun c hc => ?_⟩
    · rw [e] at hopen
      cases hopen
    · rw [hopen] at hc
      cases hc
      rfl
    · rw [hclose] at hc
      cases hc
      rfl
  have hobj := Json.isObject_trim ht
  rw [Text.trim_eq_self htrimmed] at hobj
  rw [List.append_assoc]
  exact extractJson_around hobj hp hs

/-- a fence opens before the object, and the next one stands in its string -/
theorem extractJson_embedded_fences :
    Json.parseObject "\x7b\n\"a\":\"```\"\x7d".toList = some (.obj [("a", .str "```")]) ∧
      extractJson ("``` ".toList ++ "\x7b\n\"a\":\"```\"\x7d".toList ++ "\n```".toList) =
        some (.obj [("a", .str "```")]) := by
  have ht : Json.parseObject "\x7b\n\"a\":\"```\"\x7d".toList =
      some (.obj [("a", .str "```")]) := by
    decide +kernel
  exact ⟨ht, extractJson_embedded ht (by decide +kernel) (by decide +kernel) (by decide +kernel)
    (by decide +kernel)⟩

/-- **The object in the first block of a text is found**, whatever stands around the block. -/
theorem extractJson_first_block {p i t w : List Char} {v : Json} (hp : ¬fence <:+: p)
    (hi : '\n' ∉ i) (hf : ¬fence <:+: t) (ht : Json.parseObject t = some v)
    (hw : ∀ c ∈ w, Json.isSpace c = true) (s : List Char) :
    extractJson (p ++ fence ++ i ++ ['\n'] ++ t ++ w ++ fence ++ s) = some v := by
  have hb : ¬fence <:+: t ++ w := by
    have hwf : ∀ c ∈ w, c ∉ fence := fun c hc =>
      not_mem_fence fun e => absurd (e ▸ hw c hc) (by decide)
    exact fun h => hf (Text.infix_of_infix_append (by decide) hwf h)
  have hobj := Json.isObject_trim ht
  have hv : Json.parseObject (Text.trim (t ++ w)) = some v := by
    have hblank : ∀ c ∈ w, Text.isBlank c = true := fun c hc => Json.isBlank_of_isSpace (hw c hc)
    rw [Text.trim_append_blanks t hblank hobj.trimmed.ne_nil]
    exact hobj.parse
  have h := extractJson_fenced hp hi hb hv s
  simpa using h

/-- before the block stand a brace and a backtick that meets the fence, after it another brace -/
theorem extractJson_first_block_braces :
    Json.parseObject "\x7b\"a\":\"\x7b\"\x7d".toList = some (.obj [("a", .str "\x7b")]) ∧
      extractJson ("\x7b`".toList ++ fence ++ "`json".toList ++ ['\n'] ++
        "\x7b\"a\":\"\x7b\"\x7d".toList ++ [' '] ++ fence ++ "\x7d".toList) =
        some (.obj [("a", .str "\x7b")]) := by
  have ht : Json.parseObject "\x7b\"a\":\"\x7b\"\x7d".toList =
      some (.obj [("a", .str "\x7b")]) := by
    decide +kernel
  exact ⟨ht, extractJson_first_block (by decide +kernel) (by decide +kernel)
    (fence_not_infix_of_not_mem (by decide +kernel)) ht (List.forall_mem_singleton.2 rfl) _⟩

end PromptDispatch

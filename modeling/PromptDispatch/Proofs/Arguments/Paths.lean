import PromptDispatch.Proofs.Arguments.Reading

/-!
# The way to a command, and its words

* `CommandPath`           arguments that lead to a command;
* `Stand.exists_fresh`    an accepted command line is read on from where they lead;
* `Stand.words_of_path`   a command without subcommands has all words that it needs, and a place for
                          every word.
-/

namespace PromptDispatch

/-! ## the way to a command -/

/-- an option whose value, if it has one, does not come with the next argument -/
def ReadAtOnce (w : String) : Prop :=
  IsOption w ∧ ArgumentShape.of w.toList ≠ .long "config" none

/-- arguments that lead to a command, and give it nothing but options on the way -/
inductive CommandPath : List String → CommandSpec → Prop
  | start : CommandPath [] commandTree
  | option {args c w} (h : CommandPath args c) (hc : c.isGroup = true) (hw : ReadAtOnce w) :
    CommandPath (args ++ [w]) c
  | command {args c m w} (h : CommandPath args c) (hm : c.member? w = some m) :
    CommandPath (args ++ [w]) m

theorem CommandPath.mem {args : List String} {c : CommandSpec} (h : CommandPath args c) :
    c ∈ everyCommand := by
  induction h with
  | start => exact List.mem_cons_self
  | option h hc hw ih => exact ih
  | command h hm ih => exact mem_everyCommand_of_member ih hm

theorem commonOptions_takesValue :
    ∀ o ∈ commonOptions, o.use.takesValue = true → o.name = "config" ∧ o.letter = none := by
  decide

theorem options_of_isGroup {c : CommandSpec} (hc : c.isGroup = true) :
    c.options = commonOptions ∧ c.words = [] := by
  cases c with
  | leaf => cases hc
  | group => exact ⟨rfl, rfl⟩

theorem member?_of_leaf {c : CommandSpec} (hc : c.isGroup = false) (w : String) :
    c.member? w = none := by
  cases c with
  | leaf => rfl
  | group => cases hc

namespace Level

variable {l l' : Level} {o : OptionSpec} {w : String}

theorem awaits_of_give (h : l.give o w = .ok l') : l'.awaits = false := by
  obtain ⟨x, rfl⟩ := exists_of_give h
  rfl

section
variable (hgroup : l.spec.isGroup = true)
include hgroup

theorem awaits_of_takeLong {name : String} {value : Option String}
    (hconfig : ¬(name = "config" ∧ value = none)) (h : l.takeLong name value = .ok l') :
    l'.awaits = false := by
  obtain ⟨o, m, ho, -, ⟨hvalue, hnone, -⟩ | ⟨-, hgive⟩⟩ := of_takeLong h
  · obtain ⟨hmem, hname⟩ := mem_of_long? ho
    rw [(options_of_isGroup hgroup).1] at hmem
    exact absurd ⟨hname.symm.trans (commonOptions_takesValue o hmem hvalue).1, hnone⟩ hconfig
  · exact awaits_of_give hgive

theorem awaits_of_takeShort {letters : List Char} (hl : l.awaits = false)
    (h : l.takeShort letters = .ok l') : l'.awaits = false := by
  induction letters generalizing l with
  | nil =>
    cases h
    exact hl
  | cons c r ih =>
    obtain ⟨o, m, ho, hm, hcases⟩ := of_takeShort h
    obtain ⟨hmem, hletter⟩ := mem_of_short? ho
    rw [(options_of_isGroup hgroup).1] at hmem
    rcases hcases with ⟨hvalue, -, -⟩ | ⟨hvalue, -, -⟩ | ⟨-, m', hgive, hrest⟩
    · cases hletter.symm.trans (commonOptions_takesValue o hmem hvalue).2
    · cases hletter.symm.trans (commonOptions_takesValue o hmem hvalue).2
    · have hspec : m'.spec = l.spec := (spec_of_give hgive).trans (of_flush hm).1
      exact ih (hspec ▸ hgroup) (awaits_of_give hgive) hrest

theorem awaits_of_take (hl : l.awaits = false) (hw : ReadAtOnce w) (h : l.take w = .ok l') :
    l'.awaits = false := by
  obtain ⟨⟨hword, hdivider⟩, hconfig⟩ := hw
  rw [take] at h
  split at h
  · rename_i name value hshape
    refine awaits_of_takeLong hgroup (fun hname => hconfig ?_) h
    rw [hshape, hname.1, hname.2]
  · exact awaits_of_takeShort hgroup hl h
  · rename_i hlong hshort
    cases hshape : ArgumentShape.of w.toList with
    | word => exact absurd hshape hword
    | divider => exact absurd hshape hdivider
    | long name value => exact absurd hshape (hlong name value)
    | short letters => exact absurd hshape (hshort letters)

end

end Level

namespace Stand

variable {s s' : Stand} {args rest : List String} {c : CommandSpec} {w : String} {ls : List Level}

/-- nothing has been given to the command that is being read, except options -/
structure Fresh (s : Stand) (c : CommandSpec) : Prop where
  spec : s.level.spec = c
  awaits : s.level.awaits = false
  count : s.level.wordCount = 0
  onlyWords : s.onlyWords = false

theorem exists_fresh (hpath : CommandPath args c) (h : start.read (args ++ rest) = .ok ls) :
    ∃ s : Stand, s.Fresh c ∧ s.read rest = .ok ls := by
  induction hpath generalizing rest with
  | start => exact ⟨start, ⟨rfl, rfl, rfl, rfl⟩, h⟩
  | @option _ _ w hpath hc hw ih =>
    rw [List.append_assoc] at h
    obtain ⟨s, hs, h⟩ := ih h
    have hspec : s.level.spec ∈ everyCommand := hs.spec ▸ hpath.mem
    obtain ⟨l, hl, h⟩ := exists_take hspec hs.onlyWords hw.1 h
    have htaken : Level.Optional s.level l := by
      cases Level.taken_of_take hl hw.1.ne_divider with
      | option hshape h => exact h
      | value hshape => exact absurd hshape hw.1.1
      | word hshape => exact absurd hshape hw.1.1
    refine ⟨_, ⟨htaken.spec.trans hs.spec, ?_, htaken.count.trans hs.count, rfl⟩, h⟩
    exact Level.awaits_of_take (hs.spec ▸ hc) hs.awaits hw hl
  | command hpath hm ih =>
    rw [List.append_assoc] at h
    obtain ⟨s, hs, h⟩ := ih h
    obtain ⟨s', hstep, h⟩ := exists_step h
    have hmember := hs.spec ▸ hm
    cases hstep with
    | word => cases hs.onlyWords
    | enter hwaiting hm' =>
      cases hm'.symm.trans hmember
      exact ⟨_, ⟨rfl, rfl, rfl, rfl⟩, h⟩
    | divider hnone => cases (hnone hs.awaits).symm.trans hmember
    | argument hnone => cases (hnone hs.awaits).symm.trans hmember

end Stand

/-! ## the words of a command -/

def CommandSpec.required (c : CommandSpec) : Nat := (c.words.filter (·.required)).length

/-- the arguments that can be words: all that comes after a divider, and before it what is no
option -/
def possibleWords : List String → List String
  | [] => []
  | w :: r =>
    if w = "--" then r
    else if ArgumentShape.of w.toList = .word then w :: possibleWords r
    else possibleWords r

/-- the arguments that are words for certain: an option can take the one that comes next to it -/
def certainWords (afterOption : Bool) : List String → List String
  | [] => []
  | w :: r =>
    if w = "--" then r
    else if ArgumentShape.of w.toList = .word then
      if afterOption then certainWords false r else w :: certainWords false r
    else certainWords true r

namespace Level

variable {l l' : Level} {w : String} {r : List String}

theorem of_finish (h : l.finish = .ok l') :
    l.spec.isGroup = false ∧ l.spec.required ≤ l.wordCount := by
  obtain ⟨m, hm, h⟩ := Except.bind_eq_ok_iff.1 h
  obtain ⟨hspec, -, hcount⟩ := of_flush hm
  rw [hspec] at h
  split at h
  · cases h
  · rename_i hgroup
    split at h
    · cases h
    · rename_i hfew
      exact ⟨Bool.eq_false_iff.2 hgroup, hcount ▸ Nat.le_of_not_lt hfew⟩

namespace Taken

variable (h : Taken l w l')
include h

theorem fits (hfits : l.wordCount ≤ l.spec.words.length) :
    l'.wordCount ≤ l'.spec.words.length := by
  rw [h.spec]
  cases h with
  | option hw h => exact h.count ▸ hfits
  | value hw o hwaiting hl =>
    have hcount : l'.wordCount = l.wordCount := hl ▸ wordCount_of_value hwaiting
    exact hcount ▸ hfits
  | word hw hwaiting hword =>
    obtain ⟨-, hcount, hlt, -⟩ := of_takeWord hword
    exact hcount ▸ hlt

theorem count_le_possible (hne : w ≠ "--") :
    l'.wordCount + (possibleWords r).length ≤ l.wordCount + (possibleWords (w :: r)).length := by
  rw [possibleWords, if_neg hne]
  cases h with
  | option hw h => rw [if_neg hw, h.count]
  | value hw o hwaiting hl =>
    have hcount : l'.wordCount = l.wordCount := hl ▸ wordCount_of_value hwaiting
    rw [if_pos hw, hcount, List.length_cons]
    omega
  | word hw hwaiting hword =>
    obtain ⟨-, hcount, -⟩ := of_takeWord hword
    rw [if_pos hw, hcount, List.length_cons]
    omega

/-- what is a word for certain is counted -/
theorem certain_le_count (hne : w ≠ "--") {afterOption : Bool}
    (hbefore : afterOption = false → l.awaits = false) :
    ∃ afterOption', (afterOption' = false → l'.awaits = false) ∧
      l.wordCount + (certainWords afterOption (w :: r)).length ≤
        l'.wordCount + (certainWords afterOption' r).length := by
  rw [certainWords, if_neg hne]
  cases h with
  | option hw h => exact ⟨true, nofun, by rw [if_neg hw, h.count]⟩
  | value hw o hwaiting hl =>
    have hcount : l'.wordCount = l.wordCount := hl ▸ wordCount_of_value hwaiting
    have hafter : afterOption = true := by
      by_contra hnot
      have hawaits := hbefore (Bool.eq_false_iff.2 hnot)
      rw [awaits, hwaiting] at hawaits
      cases hawaits
    refine ⟨false, fun _ => by rw [hl]; rfl, ?_⟩
    rw [if_pos hw, if_pos hafter, hcount]
  | word hw hwaiting hword =>
    obtain ⟨-, hcount, -, hawaits, -⟩ := of_takeWord hword
    refine ⟨false, fun _ => hawaits, ?_⟩
    rw [if_pos hw, hcount]
    split
    · omega
    · rw [List.length_cons]
      omega

end Taken

end Level

namespace Stand

variable {s s' : Stand} {args : List String} {c : CommandSpec} {w : String} {ls : List Level}

theorem Step.spec_of_leaf (h : Step s w s') (hleaf : s.level.spec.isGroup = false) :
    s'.level.spec = s.level.spec := by
  cases h with
  | word h => exact (Level.of_takeWord h).1
  | enter hwaiting hm => cases (member?_of_leaf hleaf w).symm.trans hm
  | divider => rfl
  | argument hmember hw h => exact (Level.taken_of_take h hw).spec

section
variable (hleaf : s.level.spec.isGroup = false)
include hleaf

/-- after the divider every argument is a word -/
theorem words_of_divider (honly : s.onlyWords = true)
    (hfits : s.level.wordCount ≤ s.level.spec.words.length) (h : s.read args = .ok ls) :
    s.level.spec.required ≤ s.level.wordCount + args.length ∧
      s.level.wordCount + args.length ≤ s.level.spec.words.length := by
  induction args generalizing s with
  | nil =>
    obtain ⟨⟨l, hl⟩, -⟩ := of_read_nil h
    exact ⟨(Level.of_finish hl).2, hfits⟩
  | cons w r ih =>
    obtain ⟨s', hstep, h⟩ := exists_step h
    have hspec := hstep.spec_of_leaf hleaf
    cases hstep with
    | word hword =>
      obtain ⟨-, hcount, hlt, -⟩ := Level.of_takeWord hword
      have hrest := ih (hspec ▸ hleaf) rfl (by rw [hspec, hcount]; exact hlt) h
      rw [hspec, hcount] at hrest
      rw [List.length_cons, Nat.add_comm r.length, ← Nat.add_assoc]
      exact hrest
    | _ => cases honly

/-- An accepted command has all words that it needs, and a place for every word. -/
theorem words_of_read (honly : s.onlyWords = false)
    (hfits : s.level.wordCount ≤ s.level.spec.words.length) (h : s.read args = .ok ls) :
    s.level.spec.required ≤ s.level.wordCount + (possibleWords args).length ∧
      ∀ afterOption, (afterOption = false → s.level.awaits = false) →
        s.level.wordCount + (certainWords afterOption args).length ≤
          s.level.spec.words.length := by
  induction args generalizing s with
  | nil =>
    obtain ⟨⟨l, hl⟩, -⟩ := of_read_nil h
    exact ⟨(Level.of_finish hl).2, fun _ _ => hfits⟩
  | cons w r ih =>
    obtain ⟨s', hstep, h⟩ := exists_step h
    have hspec := hstep.spec_of_leaf hleaf
    cases hstep with
    | word => cases honly
    | enter hwaiting hm => cases (member?_of_leaf hleaf w).symm.trans hm
    | divider =>
      obtain ⟨hrequired, hplaces⟩ := words_of_divider (s := ⟨_, _, true⟩) hleaf rfl hfits h
      exact ⟨hrequired, fun _ _ => hplaces⟩
    | argument hmember hne htake =>
      have htaken := Level.taken_of_take htake hne
      obtain ⟨hrequired, hplaces⟩ := ih (hspec ▸ hleaf) rfl (htaken.fits hfits) h
      rw [hspec] at hrequired hplaces
      refine ⟨hrequired.trans (htaken.count_le_possible hne), fun afterOption hbefore => ?_⟩
      obtain ⟨afterOption', hafter, hle⟩ := htaken.certain_le_count hne hbefore
      exact hle.trans (hplaces afterOption' hafter)

end

theorem words_of_path {before after : List String} (hpath : CommandPath before c)
    (hc : c.isGroup = false)
    (h : start.read (before ++ after) = .ok ls) :
    c.required ≤ (possibleWords after).length ∧
      (certainWords false after).length ≤ c.words.length := by
  obtain ⟨s, hs, h⟩ := exists_fresh hpath h
  obtain ⟨hrequired, hplaces⟩ := words_of_read (hs.spec ▸ hc) hs.onlyWords
    (hs.count ▸ Nat.zero_le _) h
  have hplaces := hplaces false fun _ => hs.awaits
  rw [hs.count, hs.spec, Nat.zero_add] at hrequired hplaces
  exact ⟨hrequired, hplaces⟩

end Stand

end PromptDispatch

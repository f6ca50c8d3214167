import GrammarLang.Proofs.Grammar.Layout
import GrammarLang.Proofs.Grammar.ParsedTerminals

/-! # The course of a run

A run that keeps its token sets passes them one after another (**`Parser.Passes`**), in each function
of the parser (**`Parser.stepwise_follows`**). At every state of such a run, all that it keeps in the
end falls into the token sets passed before and those that the parser still **`Awaits`**. Which ones
these are is known from the end of the run backwards: a state between two others on a course is on
the course as well (**`Parser.OnCourse.between`**). -/

namespace GrammarLang.Grammar.Parser

open GrammarLang.Scan GrammarLang.Text

variable {parser middle after : Parser} {entered : List String} {text : List Char} {set : TokenSet}
  {sets further all rest rest' : List TokenSet}

/-! ## Passing token sets -/

/-- The parser comes to stand behind some token sets, and keeps them if it keeps any. -/
structure Passes (parser : Parser) (sets : List TokenSet) (after : Parser) : Prop where
  /-- It stands at the first of them. Where there is none, it still stands at the same token set. -/
  current : parser.scanner.current = (sets ++ after.scanner.current.toList).head?
  /-- They are kept behind those in front of them. -/
  recorded : ∀ before,
    parser.scanner.recorded = some (parser.scanner.current.toList ++ before.reverse) →
    after.scanner.recorded = some (after.scanner.current.toList ++ (before ++ sets).reverse)

theorem Passes.refl (parser : Parser) : parser.Passes [] parser := by
  refine ⟨?_, fun before h => by rwa [List.append_nil]⟩
  cases parser.scanner.current <;> rfl

theorem Passes.trans (h : parser.Passes sets middle) (h' : middle.Passes further after) :
    parser.Passes (sets ++ further) after := by
  refine ⟨?_, fun before hbefore => ?_⟩
  · rw [h.current, h'.current, List.append_assoc]
    cases sets with
    | nil => cases further ++ after.scanner.current.toList <;> rfl
    | cons => rfl
  · rw [← List.append_assoc]
    exact h'.recorded _ (h.recorded _ hbefore)

/-- Terminals and what is told do not count. -/
theorem Passes.congr {last : Parser} (h : parser.Passes sets after)
    (hcurrent : last.scanner.current = after.scanner.current)
    (hrecorded : last.scanner.recorded = after.scanner.recorded) : parser.Passes sets last :=
  ⟨hcurrent ▸ h.current, by rw [hcurrent, hrecorded]; exact h.recorded⟩

/-- A token set that is skipped is passed. -/
theorem Stands.passes_skip (h : parser.Stands entered text) (hskips : parser.Skips set after) :
    parser.Passes [set] after :=
  ⟨hskips.1, (h.skip hskips).recorded⟩

theorem Stands.passes_enter {mode : String} (h : parser.Stands entered text)
    (hskips : (parser.enter mode).Skips set after) : parser.Passes [set] after :=
  ⟨(current_enter ..).symm.trans hskips.1, (h.skip_enter hskips).recorded⟩

theorem Stands.passes_leave {mode : String} (h : parser.Stands (mode :: entered) text)
    (hskips : parser.leave.Skips set after) : parser.Passes [set] after :=
  ⟨(current_leave ..).symm.trans hskips.1, (h.skip_leave hskips).recorded⟩

/-- Token sets that are skipped one after another are passed. -/
theorem SkipsAll.passes (h : parser.SkipsAll sets after) (hstands : parser.Stands entered text) :
    parser.Passes sets after ∧ ∃ text', after.Stands entered text' := by
  induction h with
  | nil => exact ⟨.refl parser, text, hstands⟩
  | snoc earlier last ih =>
    obtain ⟨hpasses, text', hmiddle⟩ := ih
    exact ⟨hpasses.trans (hmiddle.passes_skip last), _, (hmiddle.skip last).stands⟩

/-- A part of the text that is read in a mode of its own, between a token set that enters the mode and
one that leaves it. -/
structure Encloses (parser : Parser) (mode : String) (opening : TokenSet) (inside : Parser)
    (inner : List TokenSet) (behind : Parser) (closing : TokenSet) (after : Parser) : Prop where
  /-- The opening is passed. -/
  opens : parser.Passes [opening] inside
  /-- Behind it the parser is in the mode. -/
  stands : ∃ text, inside.Stands [mode] text
  /-- What stands inside is skipped. -/
  skips : inside.SkipsAll inner behind
  /-- The closing is passed. -/
  closes : behind.Passes [closing] after
  /-- Behind it the parser is out of the mode. -/
  outside : ∃ text, after.Stands [] text
  /-- The text between the two is that of the token sets inside. -/
  slice_eq : after.scanner.source.slice? ⟨inside.scanner.previousEnd, behind.start⟩ =
    some (String.ofList (textOfSets inner))
  /-- The parser stands right behind the closing. -/
  previousEnd_eq : after.scanner.previousEnd = closing.first.span.stop
  /-- No terminal is met on the way. -/
  arena_eq : inside.arena = parser.arena ∧ after.arena = behind.arena

/-- Taking an opening in a mode that is entered, and a closing where it is left, encloses what is
skipped between them. -/
theorem Stands.encloses {inside behind : Parser} {mode rule rule' : String} {opening closing : Token}
    {inner : List TokenSet} (h : parser.Stands [] text) (hmode : mode ≠ defaultMode)
    (hopening : (parser.enter mode).Takes [rule] opening inside)
    (hinner : inside.SkipsAll inner behind) (hclosing : behind.leave.Takes [rule'] closing after) :
    ∃ openingSet closingSet, Is openingSet rule ∧ Is closingSet rule' ∧
      parser.Encloses mode openingSet inside inner behind closingSet after := by
  obtain ⟨_, _, _, -, -, -, hslice, -, -⟩ := h.marks_enclosed hmode hopening hinner hclosing
  obtain ⟨openingSet, hskipsOpening, hopens⟩ := hopening.offers
  obtain ⟨closingSet, hskipsClosing, hcloses⟩ := hclosing.offers
  have hinside := (h.skip_enter hskipsOpening).stands
  obtain ⟨-, text', hbehind⟩ := hinner.passes hinside
  have htable : Lexicon.table = .ok behind.leave.scanner.table := by
    obtain ⟨told, hleave⟩ := leave_eq hbehind.entered_eq
    rw [hleave]
    exact hbehind.table
  exact ⟨openingSet, closingSet, ⟨opening, hopens⟩, ⟨closing, hcloses⟩,
    h.passes_enter hskipsOpening, ⟨_, hinside⟩, hinner, hbehind.passes_leave hskipsClosing,
    ⟨_, (hbehind.skip_leave hskipsClosing).stands⟩, hslice, hskipsClosing.previousEnd_eq htable,
    hskipsOpening.arena_eq, hskipsClosing.arena_eq⟩

theorem Encloses.passes {inside behind : Parser} {mode : String} {opening closing : TokenSet}
    {inner : List TokenSet}
    (h : parser.Encloses mode opening inside inner behind closing after) :
    ∃ sets, parser.Passes sets after := by
  obtain ⟨_, hinside⟩ := h.stands
  exact ⟨_, (h.opens.trans (h.skips.passes hinside).1).trans h.closes⟩

/-! ## Whole functions -/

/-- Outside of code and regular expressions, the parser passes token sets and is outside again. -/
def Follows (parser after : Parser) : Prop :=
  ∀ text, parser.Stands [] text → (∃ text', after.Stands [] text') ∧ ∃ sets, parser.Passes sets after

theorem Takes.follows {rules : List String} {token : Token} (h : parser.Takes rules token after) :
    parser.Follows after := by
  intro text hstands
  obtain ⟨set, hskips, -⟩ := h.skips
  exact ⟨⟨_, (hstands.skip hskips).stands⟩, _, hstands.passes_skip hskips⟩

theorem Follows.trans (h : parser.Follows middle) (h' : middle.Follows after) :
    parser.Follows after := by
  intro text hstands
  obtain ⟨⟨text', hmiddle⟩, sets, hpasses⟩ := h text hstands
  obtain ⟨hafter, further, hpasses'⟩ := h' text' hmiddle
  exact ⟨hafter, sets ++ further, hpasses.trans hpasses'⟩

/-- Adding a terminal passes nothing. -/
theorem Follows.intern {terminal : Terminal} {id : TerminalId} (h : parser.Follows middle)
    (hintern : (middle.intern terminal).Gives id after) : parser.Follows after := by
  obtain ⟨-, rfl⟩ := gives_intern.1 hintern
  intro text hstands
  obtain ⟨⟨text', hmiddle⟩, sets, hpasses⟩ := h text hstands
  exact ⟨⟨text', hmiddle.table, hmiddle.entered_eq, hmiddle.at_text⟩, sets, hpasses.congr rfl rfl⟩

/-- Code stands between braces. -/
theorem Stands.encloses_codeSegment {code : CodeSegment} (h : parser.Stands [] text)
    (hgives : (codeSegment parser).Gives code after) :
    ∃ opening inside inner behind closing, (codeTokens 0 inside).Gives () behind ∧
      code.text.toList = textOfSets inner ∧
      parser.Encloses Lexicon.codeMode opening inside inner behind closing after := by
  obtain ⟨opening, inside, hopening, behind, htokens, closing, hclosing, hslice, -⟩ :=
    codeSegment_gives.1 hgives
  obtain ⟨inner, hinner⟩ := codeTokens_skipsAll htokens
  obtain ⟨openingSet, closingSet, -, -, hencloses⟩ :=
    h.encloses codeMode_ne hopening hinner hclosing
  rw [hencloses.slice_eq] at hslice
  refine ⟨openingSet, inside, inner, behind, closingSet, htokens, ?_, hencloses⟩
  rw [← Option.some.inj hslice, String.toList_ofList]

/-- A regular expression stands between slashes, and flags may stand behind it. -/
theorem Stands.encloses_regexLiteral {regexSet : RegexSet} (h : parser.Stands [] text)
    (hgives : (regexLiteral parser).Gives regexSet after) :
    ∃ opening inside inner behind closing atFlags flags,
      (regexDisjunction inside).Gives () behind ∧ Is closing "/" ∧
      parser.Encloses Lexicon.regexMode opening inside inner behind closing atFlags ∧
      (regexFlags atFlags).Gives flags after ∧
      RegexSet.compile (String.ofList (textOfSets inner)) ((flags.map Token.text).getD "") =
        .ok regexSet := by
  obtain ⟨opening, inside, hopening, behind, hdisjunction, -, closing, atFlags, hclosing, source,
    hslice, flags, hflags, hcompiled⟩ := regexLiteral_gives.1 hgives
  obtain ⟨inner, hinner⟩ := regexDisjunction_skipsAll hdisjunction
  obtain ⟨openingSet, closingSet, -, hcloses, hencloses⟩ :=
    h.encloses regexMode_ne hopening hinner hclosing
  rw [hencloses.slice_eq] at hslice
  cases hslice
  exact ⟨openingSet, inside, inner, behind, closingSet, atFlags, flags, hdisjunction, hcloses,
    hencloses, hflags, hcompiled⟩

theorem regexFlags_follows {flags : Option Token} (hgives : (regexFlags parser).Gives flags after) :
    parser.Follows after := by
  obtain ⟨token, -, ⟨-, name, hname, -⟩ | ⟨-, -, rfl⟩⟩ | ⟨-, -, rfl⟩ := regexFlags_gives.1 hgives
  · exact hname.follows
  · exact fun text h => ⟨⟨text, h⟩, [], .refl parser⟩
  · exact fun text h => ⟨⟨text, h⟩, [], .refl parser⟩

theorem regexLiteral_follows {regexSet : RegexSet}
    (hgives : (regexLiteral parser).Gives regexSet after) : parser.Follows after := by
  intro text hstands
  obtain ⟨_, _, _, _, _, atFlags, _, -, -, hencloses, hflags, -⟩ :=
    hstands.encloses_regexLiteral hgives
  have hatFlags : parser.Follows atFlags := fun _ _ => ⟨hencloses.outside, hencloses.passes⟩
  exact hatFlags.trans (regexFlags_follows hflags) text hstands

theorem terminal_follows {id : TerminalId} (hgives : (terminal parser).Gives id after) :
    parser.Follows after := by
  obtain ⟨token, middle, htoken, hintern⟩ | ⟨-, ⟨token, middle, htoken, hintern⟩ |
    ⟨-, ⟨token, middle, htoken, hintern⟩ | ⟨-, -, set, middle, hset, hintern⟩⟩⟩ :=
    terminal_gives.1 hgives
  · exact htoken.follows.intern hintern
  · exact htoken.follows.intern hintern
  · exact htoken.follows.intern hintern
  · exact (regexLiteral_follows hset).intern hintern

/-- All functions outside of code and regular expressions pass token sets. -/
theorem stepwise_follows : Stepwise Follows where
  refl parser text h := ⟨⟨text, h⟩, [], .refl parser⟩
  trans := Follows.trans
  takes := Takes.follows
  code hgives text h := by
    obtain ⟨_, _, _, _, _, -, -, hencloses⟩ := h.encloses_codeSegment hgives
    exact ⟨hencloses.outside, hencloses.passes⟩
  terminal := terminal_follows
  tell parser detail message text h :=
    ⟨⟨text, (h.tell detail message).stands⟩, [], (Passes.refl parser).congr rfl rfl⟩

theorem wholeGrammar_follows {grammar : Grammar} (hgives : (wholeGrammar parser).Gives grammar after) :
    parser.Follows after := by
  have hstep := stepwise_follows
  obtain ⟨_, _, hkeyword, _, _, hname, _, _, hopening, _, hproductions, -, _, hclosing, -⟩ :=
    wholeGrammar_gives.1 hgives
  exact (((hkeyword.follows.trans hname.follows).trans hopening.follows).trans
    (hstep.productions hproductions)).trans hclosing.follows

/-! ## What is still to come -/

/-- Of all token sets that a run keeps in the end, the parser has these still to pass: it stands at the
first of them, and those in front of them are kept. -/
structure Awaits (parser : Parser) (all rest : List TokenSet) : Prop where
  /-- The parser stands at the first of them. -/
  current : parser.scanner.current = rest.head?
  /-- The others are kept. -/
  recorded : ∃ before, all = before ++ rest ∧
    parser.scanner.recorded = some (parser.scanner.current.toList ++ before.reverse)

/-- Between two states of a run, what is still to come is what is passed from there on, up to what is
still to come in the end. -/
theorem Awaits.between (h : parser.Awaits all rest) (hfirst : parser.Passes sets middle)
    (hsecond : middle.Passes further after) (hafter : after.Awaits all rest') :
    rest = sets ++ (further ++ rest') ∧ middle.Awaits all (further ++ rest') := by
  obtain ⟨before, hall, hbefore⟩ := h.recorded
  obtain ⟨before', hall', hbefore'⟩ := hafter.recorded
  have hmiddle := hfirst.recorded before hbefore
  -- The record of the end is known from the start, and from what the end itself awaits.
  have hkept : (before ++ sets ++ further).reverse = before'.reverse :=
    List.append_cancel_left
      (Option.some.inj ((hsecond.recorded _ hmiddle).symm.trans hbefore'))
  obtain rfl := List.reverse_injective hkept
  rw [List.append_assoc, List.append_assoc] at hall'
  refine ⟨?_, ?_, before ++ sets, ?_, hmiddle⟩
  · exact List.append_cancel_left (hall.symm.trans hall')
  · rw [hsecond.current, hafter.current]
    cases further <;> cases rest' <;> rfl
  · rw [hall']
    simp

/-- What is passed is what was to come up to what is still to come. -/
theorem Awaits.eq_append (h : parser.Awaits all rest) (hpasses : parser.Passes sets after)
    (hafter : after.Awaits all rest') : rest = sets ++ rest' :=
  (h.between hpasses (.refl after) hafter).1

/-- The parser is on a course that keeps some token sets in the end, outside of code and regular
expressions. -/
structure OnCourse (parser : Parser) (all : List TokenSet) : Prop where
  /-- It stands somewhere in the text. -/
  stands : ∃ text, parser.Stands [] text
  /-- Some of the token sets are still to come. -/
  awaits : ∃ rest, parser.Awaits all rest

/-- What happens between two states of a course is on the course. -/
theorem OnCourse.between (h : parser.OnCourse all) (hfirst : parser.Follows middle)
    (hsecond : middle.Follows after) (hafter : after.OnCourse all) : middle.OnCourse all := by
  obtain ⟨⟨text, hstands⟩, rest, hawaits⟩ := h
  obtain ⟨⟨text', hmiddle⟩, sets, hpasses⟩ := hfirst text hstands
  obtain ⟨-, further, hpasses'⟩ := hsecond text' hmiddle
  obtain ⟨rest', hrest⟩ := hafter.awaits
  exact ⟨⟨text', hmiddle⟩, _, (hawaits.between hpasses hpasses' hrest).2⟩

/-- A run of which everything is kept is on a course through all of it, from the first token set to the
end. -/
theorem Stands.course {grammar : Grammar} (h : parser.Stands [] text)
    (hrecorded : parser.scanner.recorded = some parser.scanner.current.toList)
    (hgives : (wholeGrammar parser).Gives grammar after) :
    parser.Awaits (after.scanner.recorded.getD []).reverse (after.scanner.recorded.getD []).reverse ∧
      after.OnCourse (after.scanner.recorded.getD []).reverse := by
  obtain ⟨hafter, sets, hpasses⟩ := wholeGrammar_follows hgives _ h
  obtain ⟨_, _, -, _, _, -, _, _, -, _, -, -, _, -, hend, -⟩ := wholeGrammar_gives.1 hgives
  have hnone : after.scanner.current = none := by simpa [Scanner.atEnd] using hend
  have hkept := hpasses.recorded [] (by simpa using hrecorded)
  have hcurrent := hpasses.current
  rw [hnone] at hkept hcurrent
  rw [hkept]
  simp only [Option.toList_none, List.nil_append, List.append_nil, Option.getD_some,
    List.reverse_reverse] at hkept hcurrent ⊢
  refine ⟨⟨hcurrent, [], rfl, by simpa using hrecorded⟩, hafter, [], hnone, sets,
    (List.append_nil _).symm, ?_⟩
  rw [hkept, hnone]
  rfl

end GrammarLang.Grammar.Parser

import GrammarLang.Proofs.Grammar.CodeSpelt
import GrammarLang.Proofs.Grammar.CodeWords
import GrammarLang.Proofs.Grammar.Meets

/-! # Code is read up to the brace that closes it

The parser reads code between braces just as **`codeEnd`** finds its end. So whether code is read back
between braces, in front of other text, is decided by that text alone: it is if the code **`Closes`**
there, and otherwise either nothing or other code is read (**`Parser.Stands.of_codeSegment`**,
**`Parser.Stands.exists_codeSegment`**). -/

namespace GrammarLang.Grammar

open GrammarLang.Scan GrammarLang.Text

namespace Parser

variable {parser after : Parser} {mode : String} {entered : List String}
  {text front rest : List Char} {names : List String}

/-- Inside code every text has a first token set, or ends. -/
theorem exists_first_code {table : RuleTable} (h : Lexicon.table = .ok table) (offset : Nat)
    (text : List Char) :
    ∃ current stop, First (table.rulesInMode Lexicon.codeMode) (offset, text) current stop := by
  cases text with
  | nil => exact ⟨_, _, .atEnd .nil⟩
  | cons c cs =>
    obtain ⟨name, front, htext, hword, -⟩ := exists_codeWord h c cs
    obtain ⟨set, hset, -⟩ := hword.first h .nil offset
    rw [htext]
    exact ⟨_, _, hset⟩

/-- A parser inside code sees braces where they come next, and can skip what comes next. -/
theorem Stands.code_cons {c : Char} {cs : List Char}
    (h : parser.Stands (Lexicon.codeMode :: entered) (c :: cs)) :
    (parser.sees "\x7b" = true ↔ c = '\x7b') ∧ (parser.sees "\x7d" = true ↔ c = '\x7d') ∧
      parser.scanner.place.rest = behindCodeWord c cs ∧
      ∃ set after, parser.Skips set after := by
  obtain ⟨name, front, htext, hword, hopens, hcloses⟩ := exists_codeWord h.table c cs
  rw [htext] at h
  obtain ⟨set, hcurrent, hshows, hrest⟩ := h.shows_inside hword
  refine ⟨?_, ?_, hrest, set, ?_⟩
  · rw [sees_iff_of_shows hshows hcurrent, hopens]
  · rw [sees_iff_of_shows hshows hcurrent, hcloses]
  · have hmode : parser.scanner.mode = Lexicon.codeMode := by
      rw [Scanner.mode, h.entered_eq]
      rfl
    obtain ⟨current, stop, hfirst⟩ := exists_first_code h.table parser.scanner.place.offset
      parser.scanner.place.rest
    rw [← hmode] at hfirst
    obtain ⟨scanner, hnext⟩ := exists_next h.table hfirst
    exact ⟨_, hcurrent, scanner, hnext, rfl⟩

/-- Code that is read is read up to the brace that closes it. -/
theorem codeTokens_codeEnd {depth : Nat} {parser after : Parser} {entered : List String}
    {text : List Char} (h : parser.Stands (Lexicon.codeMode :: entered) text)
    (hgives : (codeTokens depth parser).Gives () after) :
    ∃ rest, codeEnd depth text = some rest ∧
      after.Stands (Lexicon.codeMode :: entered) ('\x7d' :: rest) ∧ after.arena = parser.arena := by
  -- What is skipped is a word of the text, behind which `codeEnd` goes on.
  have hskip {set : TokenSet} {middle : Parser} (hskips : parser.Skips set middle) :
      ∃ c cs, text = c :: cs ∧ middle.Stands (Lexicon.codeMode :: entered) (behindCodeWord c cs) ∧
        middle.arena = parser.arena := by
    cases text with
    | nil => exact absurd (h.current_of_nil.symm.trans hskips.1) (by simp)
    | cons c cs =>
      have hstands := (h.skip hskips).stands
      rw [h.code_cons.2.2.1] at hstands
      exact ⟨c, cs, rfl, hstands, (hskips.consumes h.table h.at_text).2.1⟩
  rcases codeTokens_gives.1 hgives with ⟨hopens, set, middle, hskips, hmore⟩ |
    ⟨hopens, hcloses, ⟨rfl, rfl⟩ | ⟨outer, rfl, set, middle, hskips, hmore⟩⟩ |
    ⟨hopens, hcloses, set, middle, hskips, hmore⟩
  · obtain ⟨c, cs, rfl, hmiddle, harena⟩ := hskip hskips
    obtain rfl := h.code_cons.1.1 hopens
    obtain ⟨rest, hend, hafter, harena'⟩ := codeTokens_codeEnd hmiddle hmore
    exact ⟨rest, (codeEnd_opening depth cs).trans hend, hafter, harena'.trans harena⟩
  · obtain ⟨c, cs, rfl⟩ := h.exists_cons hcloses
    obtain rfl := h.code_cons.2.1.1 hcloses
    exact ⟨cs, codeEnd_closing cs, h, rfl⟩
  · obtain ⟨c, cs, rfl, hmiddle, harena⟩ := hskip hskips
    obtain rfl := h.code_cons.2.1.1 hcloses
    obtain ⟨rest, hend, hafter, harena'⟩ := codeTokens_codeEnd hmiddle hmore
    exact ⟨rest, (codeEnd_closing_succ outer cs).trans hend, hafter, harena'.trans harena⟩
  · obtain ⟨c, cs, rfl, hmiddle, harena⟩ := hskip hskips
    have hopening : c ≠ '\x7b' := fun heq => by simp [h.code_cons.1.2 heq] at hopens
    have hclosing : c ≠ '\x7d' := fun heq => by simp [h.code_cons.2.1.2 heq] at hcloses
    obtain ⟨rest, hend, hafter, harena'⟩ := codeTokens_codeEnd hmiddle hmore
    rw [codeEnd_behindCodeWord hopening hclosing] at hend
    exact ⟨rest, hend, hafter, harena'.trans harena⟩
termination_by parser.remaining
decreasing_by
  all_goals
    have hless := hskips.remaining_le
    omega

/-- Code with a brace that closes it is read. -/
theorem exists_codeTokens {depth : Nat} {parser : Parser} {entered : List String}
    {text rest : List Char} (h : parser.Stands (Lexicon.codeMode :: entered) text)
    (hend : codeEnd depth text = some rest) : ∃ after, (codeTokens depth parser).Gives () after := by
  cases text with
  | nil =>
    rw [codeEnd] at hend
    contradiction
  | cons c cs =>
    obtain ⟨hopens, hcloses, hbehind, set, middle, hskips⟩ := h.code_cons
    have hmiddle := (h.skip hskips).stands
    rw [hbehind] at hmiddle
    by_cases hopening : c = '\x7b'
    · subst hopening
      rw [codeEnd_opening] at hend
      obtain ⟨after, hafter⟩ := exists_codeTokens hmiddle hend
      exact ⟨after, codeTokens_gives.2 (.inl ⟨hopens.2 rfl, set, middle, hskips, hafter⟩)⟩
    · have hnotOpens := Bool.eq_false_iff.2 (mt hopens.1 hopening)
      by_cases hclosing : c = '\x7d'
      · subst hclosing
        cases depth with
        | zero =>
          exact ⟨parser, codeTokens_gives.2 (.inr (.inl ⟨hnotOpens, hcloses.2 rfl, .inl ⟨rfl, rfl⟩⟩))⟩
        | succ outer =>
          rw [codeEnd_closing_succ] at hend
          obtain ⟨after, hafter⟩ := exists_codeTokens hmiddle hend
          exact ⟨after, codeTokens_gives.2 (.inr (.inl ⟨hnotOpens, hcloses.2 rfl,
            .inr ⟨outer, rfl, set, middle, hskips, hafter⟩⟩))⟩
      · have hnotCloses := Bool.eq_false_iff.2 (mt hcloses.1 hclosing)
        rw [← codeEnd_behindCodeWord hopening hclosing] at hend
        obtain ⟨after, hafter⟩ := exists_codeTokens hmiddle hend
        exact ⟨after, codeTokens_gives.2 (.inr (.inr ⟨hnotOpens, hnotCloses, set, middle, hskips,
          hafter⟩))⟩
termination_by parser.remaining
decreasing_by
  all_goals exact Nat.lt_of_succ_le hskips.remaining_le

/-! ## A piece of code -/

/-- The text of code that is read is that up to the brace that closes it. -/
theorem Stands.of_codeSegment {code : CodeSegment} {cs : List Char} (h : parser.Stands [] text)
    (hgap : behindGap text = '\x7b' :: cs) (hgives : (codeSegment parser).Gives code after) :
    ∃ rest, cs = code.text.toList ++ '\x7d' :: rest ∧ codeEnd 0 cs = some rest ∧
      after.Stands [] rest ∧ after.arena = parser.arena := by
  obtain ⟨opening, inside, hopening, behind, htokens, closing, hclosing, hslice, -⟩ :=
    codeSegment_gives.1 hgives
  obtain ⟨openingSet, hskipsOpening, -⟩ := hopening.offers
  obtain ⟨closingSet, hskipsClosing, -⟩ := hclosing.offers
  have hmeets : Meets text [String.singleton '\x7b'] ['\x7b'] cs :=
    ⟨hgap, fun _ h => word_sign h (by decide) cs⟩
  obtain ⟨-, -, -, -, hrest, -⟩ := h.shows hmeets
  have hinside := h.skip_enter hskipsOpening
  rw [hrest] at hinside
  obtain ⟨inner, text', hgathers, -, hend⟩ := codeTokens_spells hinside.stands htokens
  obtain ⟨rest, hcodeEnd, hbehind, harena⟩ := codeTokens_codeEnd hinside.stands htokens
  obtain rfl := hgathers.consumes.stands.at_text.text_unique hbehind.at_text
  have hafter := hbehind.skip_leave hskipsClosing
  obtain ⟨set, hcurrent, -⟩ := current_of_sees hend
  have htext := hgathers.slice_eq hinside.stands codeMode_ne hcurrent
  rw [hafter.source_eq, hgathers.consumes.source_eq, htext] at hslice
  have hcode : code.text.toList = textOfSets inner := by
    rw [← Option.some.inj hslice, String.toList_ofList]
  have hplace : behind.scanner.place.rest = rest := hbehind.code_cons.2.2.1
  rw [hplace] at hafter
  refine ⟨rest, by rw [hcode, ← hgathers.text_eq], hcodeEnd, hafter.stands, ?_⟩
  calc after.arena = behind.arena := hskipsClosing.arena_eq
    _ = inside.arena := harena
    _ = parser.arena := hskipsOpening.arena_eq

/-- Code with a brace that closes it is read, if the text behind it can be. -/
theorem Stands.exists_codeSegment {cs : List Char} (h : parser.Stands [] text)
    (hgap : behindGap text = '\x7b' :: cs) (hend : codeEnd 0 cs = some rest)
    (hreadable : Readable rest) : ∃ code after, (codeSegment parser).Gives code after := by
  have hmeets : Meets text [String.singleton '\x7b'] ['\x7b'] cs :=
    ⟨hgap, fun _ h => word_sign h (by decide) cs⟩
  obtain ⟨set, start, hcurrent, hshows, hrest, -⟩ := h.shows hmeets
  -- The opening brace is taken where code is entered.
  obtain ⟨opening, inside, hopening⟩ : ∃ opening inside,
      (parser.enter Lexicon.codeMode).Takes ["\x7b"] opening inside := by
    obtain ⟨told, henter⟩ := parser.enter_eq Lexicon.codeMode
    obtain ⟨current, stop, hfirst⟩ :=
      exists_first_code h.table parser.scanner.place.offset parser.scanner.place.rest
    rw [henter, h.entered_eq]
    exact exists_takes_switched h.table hcurrent hshows hfirst
  obtain ⟨openingSet, hskipsOpening, -⟩ := hopening.offers
  have hinside := h.skip_enter hskipsOpening
  rw [hrest] at hinside
  -- Then the code is passed, up to the closing brace.
  obtain ⟨behind, htokens⟩ := exists_codeTokens hinside.stands hend
  obtain ⟨rest', hend', hbehind, -⟩ := codeTokens_codeEnd hinside.stands htokens
  obtain rfl : rest = rest' := Option.some.inj (hend.symm.trans hend')
  obtain ⟨hopens, hcloses, hplace, -⟩ := hbehind.code_cons
  obtain ⟨closingSet, hcurrent', -⟩ := current_of_sees (hcloses.2 rfl)
  obtain ⟨closing, after, hclosing⟩ : ∃ closing after, behind.leave.Takes ["\x7d"] closing after := by
    obtain ⟨told, hleave⟩ := leave_eq hbehind.entered_eq
    obtain ⟨name, front, htext, hword, -, hname⟩ := exists_codeWord hbehind.table '\x7d' rest
    obtain rfl := hname.2 rfl
    rw [htext] at hbehind
    obtain ⟨set, hset, hshowsClosing, -⟩ := hbehind.shows_inside hword
    obtain ⟨current, stop, hfirst⟩ := hreadable.first hbehind.table behind.scanner.place.offset
    rw [show rest = behind.scanner.place.rest from hplace.symm] at hfirst
    rw [hleave]
    exact exists_takes_switched hbehind.table hset hshowsClosing hfirst
  -- The text between the braces is there to be cut out.
  obtain ⟨closingSet, hskipsClosing, -⟩ := hclosing.offers
  obtain ⟨inner, text', hgathers, -, -⟩ := codeTokens_spells hinside.stands htokens
  have hafter := hbehind.skip_leave hskipsClosing
  have htext := hgathers.slice_eq hinside.stands codeMode_ne hcurrent'
  rw [← hgathers.consumes.source_eq, ← hafter.source_eq] at htext
  exact ⟨⟨after.spanFrom parser.start, String.ofList (textOfSets inner)⟩, after,
    codeSegment_gives.2 ⟨opening, inside, hopening, behind, htokens, closing, hclosing, htext, rfl⟩⟩

end Parser

end GrammarLang.Grammar

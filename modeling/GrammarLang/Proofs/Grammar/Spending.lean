import GrammarLang.Proofs.Grammar.Marks
import GrammarLang.Proofs.Grammar.Placed

/-! # What the parser consumes

The measure of progress is where the current token starts (**`Parser.start`**), as the text not yet
scanned starts at its end already when the last token is still to be consumed. Consuming a token set
moves it on by a byte at least: **`Parser.StandsIn.start_lt`**.

Between two states of the parser lie some consumptions, and steps that move nothing:
**`Parser.Spends`**. So no run has more consumptions than the text has bytes
(**`Parser.Spends.count_le`**). Each function of the parser ends behind some consumptions, whether it
succeeds or fails: **`Reply.Costs`**, which is proved for one function after another, up to
**`Parser.wholeGrammar_costs`**. -/

namespace GrammarLang.Grammar

open GrammarLang.Scan GrammarLang.Text

open Lexicon (ident number string)

namespace Parser

variable {parser middle after last : Parser} {source : Source} {set : TokenSet} {count more : Nat}

/-! ## Moving on -/

/-- What was consumed last ends before the current token starts. -/
theorem StandsIn.previousEnd_le_start (h : parser.StandsIn source) :
    parser.scanner.previousEnd ≤ parser.start := by
  obtain ⟨-, -, mode, text, hat⟩ := h
  have hfirst := hat.first
  rw [start, Scanner.currentOffset]
  cases hcurrent : parser.scanner.current with
  | none =>
    rw [hcurrent] at hfirst
    generalize hspot : parser.scanner.spot = spot at hfirst
    cases hfirst with
    | atEnd passed =>
      rw [show parser.scanner.offset = _ from (Prod.mk.inj hspot).1]
      exact Nat.le_add_right ..
  | some set =>
    rw [hcurrent] at hfirst
    obtain ⟨gap, front, -, -, -, -, hspan, -⟩ := hfirst.cut
    show parser.scanner.previousEnd ≤ set.first.span.start
    rw [hspan]
    exact Nat.le_add_right ..

/-- Behind a token set that is skipped, the parser stands in the text again. -/
theorem StandsIn.skip (h : parser.StandsIn source) (hskips : parser.Skips set after) :
    after.StandsIn source := by
  obtain ⟨hcurrent, scanner, hnext, rfl⟩ := hskips
  refine h.next ?_ hnext
  rw [Scanner.currentTokens, hcurrent]
  exact set.toList_ne_nil

/-- **Consuming a token set is progress**: the current token starts further on. -/
theorem StandsIn.start_lt (h : parser.StandsIn source) (hskips : parser.Skips set after) :
    parser.start < after.start := by
  -- What stands behind the token set starts where it ends at the earliest, and it is not empty.
  have hafter := (h.skip hskips).previousEnd_le_start
  rw [hskips.previousEnd_eq h.table] at hafter
  obtain ⟨-, -, mode, text, hat⟩ := h
  have hfirst := hat.first
  rw [hskips.1] at hfirst
  obtain ⟨gap, front, -, -, hlexeme, hstop, hspan, -⟩ := hfirst.cut
  have hfront := byteSize_pos hlexeme.front_ne_nil
  rw [start_eq hskips.1]
  rw [hspan] at hafter ⊢
  simp only at hafter ⊢
  omega

/-! ## Consumptions in a row -/

/-- Between two states lie some consumptions of token sets. Modes, terminals and what is told may change
as well, which moves nothing. -/
inductive Spends (parser : Parser) : Nat → Parser → Prop
  /-- Nothing happens. -/
  | refl : parser.Spends 0 parser
  /-- One more token set is consumed. -/
  | skip {count : Nat} {set : TokenSet} {middle after : Parser} (earlier : parser.Spends count middle)
      (last : middle.Skips set after) : parser.Spends (count + 1) after
  /-- Nothing moves. -/
  | idle {count : Nat} {middle : Parser} (earlier : parser.Spends count middle)
      (entered : List String) (told : List Entry) (arena : Arena) :
      parser.Spends count { middle.switched entered told with arena }

namespace Spends

theorem trans (h : parser.Spends count middle) (h' : middle.Spends more after) :
    parser.Spends (count + more) after := by
  induction h' with
  | refl => exact h
  | skip _ last ih => exact ih.skip last
  | idle _ entered told arena ih => exact ih.idle entered told arena

/-- Each consumption moves the start of the current token by a byte or more. -/
theorem start_add_le (h : parser.Spends count after) (hstands : parser.StandsIn source) :
    after.StandsIn source ∧ parser.start + count ≤ after.start := by
  induction h with
  | refl => exact ⟨hstands, Nat.le_refl _⟩
  | skip _ last ih =>
    obtain ⟨hmiddle, hle⟩ := ih
    have hlt := hmiddle.start_lt last
    exact ⟨hmiddle.skip last, by omega⟩
  | idle _ entered told arena ih =>
    obtain ⟨hmiddle, hle⟩ := ih
    obtain ⟨hsource, htable, hat⟩ := hmiddle.switched entered told
    exact ⟨⟨hsource, htable, hat⟩, hle⟩

/-- No run has more consumptions than the text has bytes. -/
theorem count_le (h : parser.Spends count after) (hstands : parser.StandsIn source) :
    count ≤ source.size := by
  obtain ⟨hafter, hle⟩ := h.start_add_le hstands
  have hend := hafter.isBoundary_start.le_size
  omega

/-- Each consumption leaves less to parse, and nothing else does. -/
theorem remaining_le (h : parser.Spends count after) :
    after.remaining + count ≤ parser.remaining ∧ (count = 0 → after.remaining = parser.remaining) := by
  induction h with
  | refl => exact ⟨Nat.le_refl _, fun _ => rfl⟩
  | skip _ last ih =>
    have hless := last.remaining_le
    exact ⟨by omega, nofun⟩
  | idle _ entered told arena ih => exact ih

end Spends

/-- What is put on record besides the current token set is what was consumed. -/
theorem Spends.recorded (h : parser.Spends count after) (hstands : parser.StandsIn source)
    {earlier : List TokenSet}
    (hrecord : parser.scanner.recorded = some (parser.scanner.current.toList ++ earlier)) :
    ∃ consumed, after.scanner.recorded =
        some (after.scanner.current.toList ++ (consumed ++ earlier)) ∧
      consumed.length = count := by
  induction h with
  | refl => exact ⟨[], hrecord, rfl⟩
  | @skip _ set _ _ hearlier last ih =>
    obtain ⟨consumed, hkept, hcount⟩ := ih
    obtain ⟨-, htable, mode, text, hat⟩ := (hearlier.start_add_le hstands).1
    obtain ⟨hcurrent, scanner, hnext, rfl⟩ := last
    obtain ⟨-, -, -, -, -, hmore⟩ := hat.next (Lexicon.anchored_mode htable _) hcurrent hnext
    refine ⟨set :: consumed, ?_, congrArg (· + 1) hcount⟩
    show scanner.recorded = _
    rw [hmore, hkept, hcurrent]
    rfl
  | idle _ entered told arena ih => exact ih

theorem Skips.spends (h : parser.Skips set after) : parser.Spends 1 after := .skip .refl h

theorem Takes.spends {rules : List String} {token : Token} (h : parser.Takes rules token after) :
    parser.Spends 1 after := by
  obtain ⟨set, hskips, -⟩ := h.skips
  exact hskips.spends

theorem spends_enter (parser : Parser) (mode : String) : parser.Spends 0 (parser.enter mode) := by
  obtain ⟨told, henter⟩ := parser.enter_eq mode
  rw [henter]
  exact .idle .refl _ _ _

theorem spends_leave (parser : Parser) : parser.Spends 0 parser.leave := by
  have hleave : ∃ entered told, parser.leave = parser.switched entered told := by
    simp only [leave, Scanner.popMode]
    split <;> exact ⟨_, _, rfl⟩
  obtain ⟨entered, told, hleave⟩ := hleave
  rw [hleave]
  exact .idle .refl _ _ _

/-- What a parser may be left as where it fails. -/
inductive Halts (parser : Parser) : Parser → Prop
  /-- It does not move. -/
  | here : parser.Halts parser
  /-- The next token set cannot be scanned. -/
  | scan {error : Error} {scanner : Scanner} (failed : parser.scanner.next = .failed error scanner) :
      parser.Halts (parser.withScanner scanner)
  /-- It cannot look ahead. -/
  | lookAhead {rules : List String} {error : Error} {scanner : Scanner}
      (failed : parser.scanner.matchesSequence rules = .failed error scanner) :
      parser.Halts (parser.withScanner scanner)

end Parser

/-! ## Replies -/

namespace Reply

variable {α β : Type} {least more fewer : Nat} {parser earlier : Parser}

/-- The parser is left in a state, or where a failure there leaves it. -/
def EndsAt (reply : Reply α least parser) (last : Parser) : Prop :=
  match reply with
  | .ok _ after _ => last = after
  | .failed _ after => last.Halts after

/-- Whether it succeeds or fails, a function ends behind some consumptions. -/
def Costs (reply : Reply α least parser) : Prop :=
  ∃ count last, parser.Spends count last ∧ reply.EndsAt last

namespace Costs

/-- What a success has consumed is at least what its type says. -/
theorem of_gives {reply : Reply α least parser} {value : α} {after : Parser} (h : reply.Costs)
    (hgives : reply.Gives value after) :
    ∃ count, parser.Spends count after ∧ (0 < least → 0 < count) := by
  obtain ⟨used, rfl⟩ := hgives
  obtain ⟨count, last, hspends, hends⟩ := h
  obtain rfl : last = after := hends
  -- Without a consumption as much would be left as before, against what the type says.
  refine ⟨count, hspends, fun hleast => Nat.pos_of_ne_zero fun hzero => ?_⟩
  have hsame := hspends.remaining_le.2 hzero
  omega

theorem ok {value : α} {after : Parser} {used : after.remaining + least ≤ parser.remaining}
    {count : Nat} (h : parser.Spends count after) : (Reply.ok value after used).Costs :=
  ⟨count, after, h, rfl⟩

theorem done (value : α) (parser : Parser) : (Reply.done value parser).Costs := .ok .refl

theorem halts {error : ParseError} {after : Parser} (h : parser.Halts after) :
    (Reply.failed error after : Reply α least parser).Costs := ⟨0, parser, .refl, h⟩

/-- Two steps in a row cost what both of them do. -/
theorem bind {reply : Reply α least parser}
    {next : (value : α) → (after : Parser) → after.remaining + least ≤ parser.remaining →
      Reply β more after} (h : reply.Costs)
    (hnext : ∀ value middle (hgives : reply.Gives value middle),
      (next value middle hgives.remaining_le).Costs) : (reply.bind next).Costs := by
  obtain ⟨count, last, hspends, hends⟩ := h
  cases reply with
  | failed error after => exact ⟨count, last, hspends, hends⟩
  | ok value middle used =>
    -- Behind a success the consumptions of both steps add up, however the second one ends.
    obtain rfl : last = middle := hends
    obtain ⟨further, final, hfurther, hfinal⟩ := hnext value last ⟨used, rfl⟩
    refine ⟨count + further, final, hspends.trans hfurther, ?_⟩
    simp only [Reply.bind]
    cases hresult : next value last used with
    | failed error after => rwa [hresult] at hfinal
    | ok result after _ => rwa [hresult] at hfinal

theorem map {reply : Reply α least parser} {change : α → β} (h : reply.Costs) :
    (reply.map change).Costs := by
  obtain ⟨count, last, hspends, hends⟩ := h
  cases reply <;> exact ⟨count, last, hspends, hends⟩

/-- Seen from an earlier state, what was consumed before comes in addition. -/
theorem since {reply : Reply α least parser} {count : Nat}
    {used : parser.remaining + fewer ≤ earlier.remaining + least}
    (hearlier : earlier.Spends count parser) (h : reply.Costs) : (reply.since used).Costs := by
  obtain ⟨further, last, hspends, hends⟩ := h
  refine ⟨count + further, last, hearlier.trans hspends, ?_⟩
  cases reply <;> exact hends

theorem across {reply : Reply α least parser} {same : parser.remaining = earlier.remaining}
    {count : Nat} (hearlier : earlier.Spends count parser) (h : reply.Costs) :
    (reply.across same).Costs := by
  obtain ⟨further, last, hspends, hends⟩ := h
  refine ⟨count + further, last, hearlier.trans hspends, ?_⟩
  cases reply <;> exact hends

end Costs

end Reply

namespace Parser

variable {parser after : Parser} {rules : List String} {α : Type} {least : Nat}

/-! ## Steps -/

theorem expected_costs {names : List String} : (parser.expected names : Reply α least parser).Costs :=
  .halts .here

/-- An attempt fails where it started, or where the next token set cannot be scanned. -/
theorem halts_of_attempt {error : ParseError} (h : parser.tryConsumeAny rules = .failed error after) :
    parser.Halts after := by
  rcases cases_of_attempt_failed h with ⟨token, failure, scanner, -, hnext, -, rfl⟩ | ⟨_, _, _, -, rfl⟩
  · exact .scan hnext
  · exact .here

/-- What goes on from an attempt costs what goes on behind the token taken, or where there was none. -/
theorem attempt_costs {earlier : Parser} {count : Nat} {absent : Reply α least earlier}
    {taken : (token : Token) → (middle : Parser) → middle.remaining + 1 ≤ parser.remaining →
      Reply α least earlier} (hearlier : earlier.Spends count parser)
    (htaken : ∀ token middle (htakes : parser.Takes rules token middle),
      (taken token middle htakes.remaining_le).Costs)
    (habsent : parser.Lacks rules → absent.Costs) :
    (match parser.tryConsumeAny rules with
      | .failed error middle => Reply.failed error middle
      | .taken token middle used => taken token middle used
      | .absent => absent).Costs := by
  cases h : parser.tryConsumeAny rules with
  | failed error middle => exact ⟨count, parser, hearlier, halts_of_attempt h⟩
  | taken token middle used => exact htaken token middle (takes_iff.2 ⟨used, h⟩)
  | absent => exact habsent (lacks_iff.2 h)

/-- The same where the failure to find a token is looked at first. -/
theorem attempt_absent_costs {earlier : Parser} {count : Nat} {absent : Reply α least earlier}
    {taken : (token : Token) → (middle : Parser) → middle.remaining + 1 ≤ parser.remaining →
      Reply α least earlier} (hearlier : earlier.Spends count parser)
    (htaken : ∀ token middle (htakes : parser.Takes rules token middle),
      (taken token middle htakes.remaining_le).Costs)
    (habsent : parser.Lacks rules → absent.Costs) :
    (match parser.tryConsumeAny rules with
      | .failed error middle => Reply.failed error middle
      | .absent => absent
      | .taken token middle used => taken token middle used).Costs := by
  have hattempt := attempt_costs hearlier htaken habsent
  cases h : parser.tryConsumeAny rules <;> simpa only [h] using hattempt

theorem consumeAny_costs : (parser.consumeAny rules).Costs := by
  rw [consumeAny_eq]
  exact attempt_costs .refl (fun _ _ htakes => .ok htakes.spends) fun _ => expected_costs

theorem consume_costs {rule : String} : (parser.consume rule).Costs := consumeAny_costs

theorem skip_costs {names : List String} : (parser.skip names).Costs := by
  rw [skip]
  split
  · exact expected_costs
  · rename_i set hcurrent
    split
    · rename_i scanner hnext
      exact .ok (Skips.spends ⟨hcurrent, scanner, hnext, rfl⟩)
    · rename_i hnext
      exact .halts (.scan hnext)

theorem seesSequence_costs : (parser.seesSequence rules).Costs := by
  rw [seesSequence]
  split
  · exact .done _ _
  · rename_i hfailed
    exact .halts (.lookAhead hfailed)

theorem textBetween_costs {start stop : Nat} : (parser.textBetween start stop).Costs := by
  rw [textBetween]
  split
  · exact .done _ _
  · exact .halts .here

theorem intern_costs {terminal : Terminal} : (parser.intern terminal).Costs :=
  .ok (.idle .refl parser.scanner.entered parser.scanner.told _)

/-! ## Code and regular expressions

Each function is followed along its own recursion. -/

theorem codeTokens_costs (depth : Nat) (parser : Parser) : (codeTokens depth parser).Costs := by
  -- All branches but the last skip the current tokens.
  have hskip (inner : Nat) : ((parser.skip ["\x7d"]).bind fun _ after _ =>
      codeTokens inner after).Costs :=
    skip_costs.bind fun _ after hgives =>
      have hless := hgives.remaining_le
      codeTokens_costs inner after
  rw [codeTokens]
  split
  · exact .since .refl (hskip _)
  · split
    · exact .done _ _
    · exact .since .refl (hskip _)
termination_by parser.remaining

theorem codeSegment_costs : (codeSegment parser).Costs := by
  rw [codeSegment]
  refine .since (spends_enter parser _) (consume_costs.bind fun _ inside _ => ?_)
  refine (codeTokens_costs 0 inside).bind fun _ behind _ => ?_
  exact (Reply.Costs.across (spends_leave behind) consume_costs).bind fun _ _ _ => textBetween_costs.map

mutual

theorem regexClass_costs (parser : Parser) : (regexClass parser).Costs := by
  rw [regexClass]
  refine .since .refl (consumeAny_costs.bind fun _ inside hgives => ?_)
  have hless := hgives.remaining_le
  refine attempt_absent_costs .refl (fun _ further htakes => ?_) fun _ => ?_
  · have hless' := htakes.remaining_le
    exact (Reply.Costs.since htakes.spends (regexMembers_costs further)).bind
      fun _ _ _ => consume_costs.map
  · exact (regexMembers_costs inside).bind fun _ _ _ => consume_costs.map
termination_by 2 * parser.remaining

theorem regexMembers_costs (parser : Parser) : (regexMembers parser).Costs := by
  rw [regexMembers]
  split
  · exact .done _ _
  split
  · exact expected_costs
  split
  · refine .since .refl ((regexClass_costs parser).bind fun _ after hgives => ?_)
    have hless := hgives.remaining_le
    exact regexMembers_costs after
  · refine .since .refl (skip_costs.bind fun _ after hgives => ?_)
    have hless := hgives.remaining_le
    exact regexMembers_costs after
termination_by 2 * parser.remaining + 1

end

theorem regexQuantifier_costs : (regexQuantifier parser).Costs := by
  rw [regexQuantifier]
  refine attempt_absent_costs .refl (fun _ after htakes => ?_) fun _ => .done _ _
  exact attempt_absent_costs htakes.spends
    (fun _ _ hlazy => .ok (htakes.spends.trans hlazy.spends)) fun _ => .ok htakes.spends

mutual

theorem regexDisjunction_costs (parser : Parser) : (regexDisjunction parser).Costs := by
  rw [regexDisjunction]
  refine .since .refl ((regexAlternative_costs parser).bind fun _ after hgives => ?_)
  have hless := hgives.remaining_le
  refine attempt_absent_costs .refl (fun _ last htakes => ?_) fun _ => .done _ _
  have hless' := htakes.remaining_le
  exact .since htakes.spends (regexDisjunction_costs last)
termination_by 4 * parser.remaining + 3

theorem regexAlternative_costs (parser : Parser) : (regexAlternative parser).Costs := by
  rw [regexAlternative]
  split
  · exact .done _ _
  · refine .since .refl ((regexTerm_costs parser).bind fun _ after hgives => ?_)
    have hless := hgives.remaining_le
    exact regexAlternative_costs after
termination_by 4 * parser.remaining + 2

theorem regexTerm_costs (parser : Parser) : (regexTerm parser).Costs := by
  rw [regexTerm]
  refine attempt_costs .refl (fun _ _ htakes => .ok htakes.spends) fun _ => ?_
  refine attempt_costs .refl (fun _ inside htakes => ?_) fun _ => ?_
  · have hless := htakes.remaining_le
    exact .since htakes.spends ((regexDisjunction_costs inside).bind fun _ _ _ => consume_costs.map)
  · exact (regexAtom_costs parser).bind fun _ _ _ => regexQuantifier_costs
termination_by 4 * parser.remaining + 1

theorem regexAtom_costs (parser : Parser) : (regexAtom parser).Costs := by
  rw [regexAtom]
  refine attempt_costs .refl (fun _ _ htakes => .ok htakes.spends) fun _ => ?_
  split
  · exact regexClass_costs parser
  refine attempt_costs .refl (fun _ inside htakes => ?_) fun _ => expected_costs
  have hless := htakes.remaining_le
  exact .since htakes.spends ((regexDisjunction_costs inside).bind fun _ _ _ => consume_costs.map)
termination_by 4 * parser.remaining

end

theorem regexFlags_costs : (regexFlags parser).Costs := by
  rw [regexFlags]
  split
  · exact .done _ _
  split
  · exact .since .refl consume_costs.map
  · exact .done _ _

theorem regexSet_costs {opening : Nat} {source : String} {flags : Option Token} :
    (parser.regexSet opening source flags).Costs := by
  rw [Parser.regexSet]
  split
  · exact .done _ _
  · exact .halts .here
  · exact .halts .here

theorem regexLiteral_costs : (regexLiteral parser).Costs := by
  rw [regexLiteral]
  refine .since (spends_enter parser _) (consume_costs.bind fun _ inside _ => ?_)
  refine (regexDisjunction_costs inside).bind fun _ behind _ => ?_
  split
  · refine (Reply.Costs.across (spends_leave behind) consume_costs).bind fun _ _ _ => ?_
    exact textBetween_costs.bind fun _ _ _ => regexFlags_costs.bind fun _ _ _ => regexSet_costs
  · exact expected_costs

/-! ## Terminals and suffixes -/

theorem terminal_costs : (terminal parser).Costs := by
  rw [terminal]
  refine attempt_costs .refl (fun _ _ htakes => .since htakes.spends intern_costs) fun _ => ?_
  refine attempt_costs .refl (fun _ _ htakes => .since htakes.spends intern_costs) fun _ => ?_
  refine attempt_costs .refl (fun _ _ htakes => .since htakes.spends intern_costs) fun _ => ?_
  split
  · exact regexLiteral_costs.bind fun _ _ _ => intern_costs
  · exact expected_costs

theorem upperBound_costs : (upperBound parser).Costs := by
  rw [upperBound]
  exact attempt_costs .refl (fun _ _ htakes => .ok htakes.spends) fun _ => .done _ _

theorem rangeSuffix_costs : (rangeSuffix parser).Costs := by
  rw [rangeSuffix]
  refine .since .refl (consume_costs.bind fun _ inside _ => consume_costs.bind fun _ after _ => ?_)
  refine Reply.Costs.bind ?_ fun upper behind _ => consume_costs.bind fun _ last _ => ?_
  · exact attempt_absent_costs .refl (fun _ _ htakes => .since htakes.spends upperBound_costs)
      fun _ => .done _ _
  · cases upper with
    | none => exact .done _ _
    | some bound =>
      simp only
      split
      · exact .halts .here
      · exact .done _ _

theorem suffixes_costs (parser : Parser) : (suffixes parser).Costs := by
  rw [suffixes]
  refine attempt_costs .refl (fun _ after htakes => ?_) fun _ => ?_
  · have hless := htakes.remaining_le
    exact .since htakes.spends (suffixes_costs after).map
  · refine .since .refl (seesSequence_costs.bind fun isRange same hsame => ?_)
    obtain ⟨-, rfl⟩ := gives_seesSequence.1 hsame
    split
    · refine .since .refl (rangeSuffix_costs.bind fun _ after hgives => ?_)
      have hless := hgives.remaining_le
      exact (suffixes_costs after).map
    · exact .done _ _
termination_by parser.remaining

/-! ## Components and branches -/

theorem codeInFront_costs : (codeInFront parser).Costs := by
  rw [codeInFront]
  split
  · refine .since .refl (codeSegment_costs.bind fun _ after _ => ?_)
    refine attempt_absent_costs .refl (fun _ last htakes => ?_) fun _ => .done _ _
    split
    · exact .since htakes.spends codeSegment_costs.map
    · exact .ok htakes.spends
  · exact .done _ _

theorem labelName_costs : (labelName parser).Costs := by
  rw [labelName]
  refine .since .refl (seesSequence_costs.bind fun _ _ _ => ?_)
  split
  · exact .since .refl (consume_costs.bind fun _ _ _ => consume_costs.map)
  · exact .done _ _

theorem codeBehind_costs : (codeBehind parser).Costs := by
  rw [codeBehind]
  split
  · exact .since .refl codeSegment_costs.map
  · exact .done _ _

mutual

theorem branches_costs (parser : Parser) : (branches parser).Costs := by
  rw [branches]
  refine .since .refl ((branch_costs parser).bind fun _ after hgives => ?_)
  have hless := hgives.remaining_le
  refine attempt_absent_costs .refl (fun _ last htakes => ?_) fun _ => .done _ _
  have hless' := htakes.remaining_le
  exact .since htakes.spends (branches_costs last).map
termination_by 5 * parser.remaining + 4

theorem branch_costs (parser : Parser) : (branch parser).Costs := by
  rw [branch]
  exact .since .refl ((components_costs parser).bind fun _ _ _ => .done _ _)
termination_by 5 * parser.remaining + 3

theorem components_costs (parser : Parser) : (components parser).Costs := by
  rw [components]
  split
  · exact .done _ _
  · refine .since .refl ((component_costs parser).bind fun _ after hgives => ?_)
    have hless := hgives.remaining_le
    exact (components_costs after).map
termination_by 5 * parser.remaining + 2

theorem component_costs (parser : Parser) : (component parser).Costs := by
  rw [component]
  refine .since .refl (codeInFront_costs.bind fun _ atLabel hfront => ?_)
  have hless := hfront.remaining_le
  refine labelName_costs.bind fun _ atElement hlabel => ?_
  have hless' := hlabel.remaining_le
  refine (element_costs atElement).bind fun _ atSuffixes _ => ?_
  refine (suffixes_costs atSuffixes).bind fun _ _ _ => ?_
  exact codeBehind_costs.bind fun _ _ _ => .done _ _
termination_by 5 * parser.remaining + 1

theorem element_costs (parser : Parser) : (element parser).Costs := by
  rw [element]
  refine attempt_costs .refl (fun _ after htakes => ?_) fun _ => ?_
  · have hless := htakes.remaining_le
    exact .since htakes.spends (element_costs after).map
  refine attempt_costs .refl (fun _ inside htakes => ?_) fun _ => terminal_costs.map
  have hless := htakes.remaining_le
  exact .since htakes.spends ((branches_costs inside).bind fun _ _ _ => consume_costs.map)
termination_by 5 * parser.remaining

end

/-! ## The whole grammar -/

theorem production_costs : (production parser).Costs := by
  rw [production]
  refine .since .refl (consume_costs.bind fun _ _ _ => consume_costs.bind fun _ inside _ => ?_)
  refine (branches_costs inside).bind fun _ _ _ => consume_costs.bind fun _ _ _ => ?_
  exact .across (.idle .refl _ _ _) (.done _ _)

theorem productions_costs (parser : Parser) : (productions parser).Costs := by
  rw [productions]
  split
  · refine .since .refl (production_costs.bind fun _ after hgives => ?_)
    have hless := hgives.remaining_le
    exact (productions_costs after).map
  · exact .done _ _
termination_by parser.remaining

/-- A whole grammar costs some consumptions, whether the text is one or not. -/
theorem wholeGrammar_costs : (wholeGrammar parser).Costs := by
  rw [wholeGrammar]
  refine .since .refl (consume_costs.bind fun _ _ _ => consume_costs.bind fun _ _ _ => ?_)
  refine consume_costs.bind fun _ inside _ => (productions_costs inside).bind fun _ _ _ => ?_
  split
  · refine consume_costs.bind fun _ _ _ => ?_
    split
    · exact .done _ _
    · exact expected_costs
  · exact expected_costs

end Parser

end GrammarLang.Grammar

import GrammarLang.Proofs.Grammar.Calls

/-! # Progress

The parser makes progress on every text, whether the text is a grammar, is cut off or is none at all:
**`parser_progresses`**. Each round of a loop fails, or leaves the loop, or comes to the next round
(**`Call.goes_round`**), and something is consumed from one round to the next and from one call of a
function to another one within it (`Call.spends_of_transGen`). What is consumed moves the start of the
current token on, so no text has more consumptions than bytes. -/

namespace GrammarLang.Grammar

open GrammarLang.Scan GrammarLang.Text Relation

open Lexicon (ident number string)

/-! ## Loops -/

namespace Call

open GrammarLang.Grammar.Parser (lacks_iff takes_iff)

/-- The loops of the parser, each with what it is left for. -/
inductive Loop : Call → Prop → Prop
  /-- Productions are read up to a token that is no name. -/
  | productions {parser : Parser} : Loop (.on .productions parser) (¬ parser.sees ident = true)
  /-- Branches are read up to one without a bar behind it. -/
  | branches {parser : Parser} : Loop (.on .branches parser)
      (∃ branch after, parser.branch.Gives branch after ∧ after.Lacks ["|"])
  /-- Components are read up to a token that ends a branch. -/
  | components {parser : Parser} :
      Loop (.on .components parser) (parser.seesAny Parser.branchEnds = true)
  /-- Suffixes are read as long as there are signs and ranges. -/
  | suffixes {parser : Parser} : Loop (.on .suffixes parser)
      (parser.Lacks ["*", "+", "?"] ∧ parser.Foresees ["\x7b", number] false)
  /-- Code is read up to the brace that closes it. -/
  | codeTokens {depth : Nat} {parser : Parser} :
      Loop (.inCode depth parser)
        (¬ parser.sees "\x7b" = true ∧ (parser.sees "\x7d" && depth = 0) = true)
  /-- Alternatives are read up to one without a bar behind it. -/
  | regexDisjunction {parser : Parser} : Loop (.on .regexDisjunction parser)
      (∃ after, parser.regexAlternative.Gives () after ∧ after.Lacks ["|"])
  /-- Terms are read up to a token that ends an alternative. -/
  | regexAlternative {parser : Parser} : Loop (.on .regexAlternative parser)
      ((parser.scanner.atEnd || parser.seesAny ["|", ")", "/"]) = true)
  /-- Members of a class are read up to a closing bracket. -/
  | regexMembers {parser : Parser} :
      Loop (.on .regexMembers parser) (parser.sees "]" = true)

/-- The call fails. -/
def Fails (call : Call) : Prop := ∃ failure, call.failure? = some failure

/-- The call comes to another round of the loop that it is. -/
def Repeats (call : Call) : Prop := ∃ next, call.Makes next ∧ next.routine = call.routine

theorem Makes.fails_of {outer inner : Call} (h : outer.Makes inner) (hfails : inner.Fails) :
    outer.Fails := by
  obtain ⟨failure, hfailure⟩ := hfails
  exact ⟨failure, h.fails hfailure⟩

section Rounds

variable {parser : Parser}

/-- An attempt takes a token, or there is none to be taken, or it fails. -/
theorem attempt_cases (parser : Parser) (rules : List String) :
    (∃ token after, parser.Takes rules token after) ∨ parser.Lacks rules ∨
      ∃ error after, parser.tryConsumeAny rules = .failed error after := by
  cases h : parser.tryConsumeAny rules with
  | taken token after used => exact .inl ⟨token, after, takes_iff.2 ⟨used, h⟩⟩
  | absent => exact .inr (.inl (lacks_iff.2 h))
  | failed error after => exact .inr (.inr ⟨error, after, rfl⟩)

/-! Each loop goes round again, unless it fails or is left. -/

theorem productions_round (goesOn : parser.sees ident = true) :
    Fails (.on .productions parser) ∨ Repeats (.on .productions parser) := by
  rcases parser.production.gives_or_fails with ⟨first, after, hfirst⟩ | hfails
  · exact .inr ⟨_, .tree (.moreProductions goesOn hfirst), rfl⟩
  · exact .inl (Makes.fails_of (.tree (.production goesOn)) hfails)

theorem branches_round :
    (∃ branch after, parser.branch.Gives branch after ∧ after.Lacks ["|"]) ∨
      Fails (.on .branches parser) ∨ Repeats (.on .branches parser) := by
  rcases parser.branch.gives_or_fails with ⟨first, after, hfirst⟩ | hfails
  · rcases attempt_cases after ["|"] with ⟨bar, behind, hbar⟩ | hlacks | ⟨error, last, hfailed⟩
    · exact .inr (.inr ⟨_, .tree (.moreBranches hfirst hbar), rfl⟩)
    · exact .inl ⟨first, after, hfirst, hlacks⟩
    · refine .inr (.inl ⟨(error, last), ?_⟩)
      show parser.branches.failure? = _
      rw [Parser.branches, Reply.failure?_since]
      refine hfirst.failure?_bind ?_
      simp only [Parser.tryConsume, hfailed]
      rfl
  · exact .inr (.inl (Makes.fails_of (.tree .branch) hfails))

theorem components_round (goesOn : ¬ parser.seesAny Parser.branchEnds = true) :
    Fails (.on .components parser) ∨ Repeats (.on .components parser) := by
  rcases parser.component.gives_or_fails with ⟨first, after, hfirst⟩ | hfails
  · exact .inr ⟨_, .tree (.moreComponents goesOn hfirst), rfl⟩
  · exact .inl (Makes.fails_of (.tree (.component goesOn)) hfails)

theorem suffixes_round :
    (parser.Lacks ["*", "+", "?"] ∧ parser.Foresees ["\x7b", number] false) ∨
      Fails (.on .suffixes parser) ∨ Repeats (.on .suffixes parser) := by
  rcases attempt_cases parser ["*", "+", "?"] with
    ⟨sign, after, hsign⟩ | hlacks | ⟨error, last, hfailed⟩
  · exact .inr (.inr ⟨_, .component (.behindSign hsign), rfl⟩)
  · -- Without a sign, it is looked ahead for a range.
    have hround : parser.suffixes.failure? = ((parser.seesSequence ["\x7b", number]).bind
        fun isRange same _ =>
          if isRange then
            (same.rangeSuffix.bind fun suffix after _ =>
              after.suffixes.map (suffix :: ·)).since (by omega)
          else .done [] same).failure? := by
      rw [Parser.suffixes]
      simp only [lacks_iff.1 hlacks, Reply.failure?_since]
    rcases (parser.seesSequence ["\x7b", number]).gives_or_fails with
      ⟨found, same, hfound⟩ | ⟨failure, hfails⟩
    · obtain ⟨hforesees, rfl⟩ := Parser.gives_seesSequence.1 hfound
      cases found with
      | false => exact .inl ⟨hlacks, hforesees⟩
      | true =>
        rcases parser.rangeSuffix.gives_or_fails with ⟨first, after, hfirst⟩ | ⟨failure, hfails⟩
        · exact .inr (.inr ⟨_, .component (.behindRange hlacks hforesees hfirst), rfl⟩)
        · refine .inr (.inl ⟨failure, hround.trans (hfound.failure?_bind ?_)⟩)
          rw [if_pos rfl, Reply.failure?_since]
          exact Reply.failure?_bind hfails
    · exact .inr (.inl ⟨failure, hround.trans (Reply.failure?_bind hfails)⟩)
  · refine .inr (.inl ⟨(error, last), ?_⟩)
    show parser.suffixes.failure? = _
    rw [Parser.suffixes]
    simp only [hfailed]
    rfl

theorem codeTokens_round {depth : Nat} :
    (¬ parser.sees "\x7b" = true ∧ (parser.sees "\x7d" && depth = 0) = true) ∨
      Fails (.inCode depth parser) ∨ Repeats (.inCode depth parser) := by
  by_cases hleaves : ¬ parser.sees "\x7b" = true ∧ (parser.sees "\x7d" && depth = 0) = true
  · exact .inl hleaves
  right
  rcases (parser.skip ["\x7d"]).gives_or_fails with ⟨⟨⟩, after, hskip⟩ | ⟨failure, hfails⟩
  · obtain ⟨set, hskips⟩ := Parser.gives_skip.1 hskip
    by_cases hopens : parser.sees "\x7b" = true
    · exact .inr ⟨_, .code (.opened hopens hskips), rfl⟩
    · exact .inr ⟨_, .code (.passed hopens (fun hends => hleaves ⟨hopens, hends⟩) hskips), rfl⟩
  · refine .inl ⟨failure, ?_⟩
    show (Parser.codeTokens depth parser).failure? = _
    rw [Parser.codeTokens]
    -- Whether a brace is opened or not, skipping fails first.
    split
    · exact (Reply.failure?_since ..).trans (Reply.failure?_bind hfails)
    · rename_i hopens
      rw [if_neg fun hends => hleaves ⟨hopens, hends⟩, Reply.failure?_since]
      exact Reply.failure?_bind hfails

theorem regexDisjunction_round :
    (∃ after, parser.regexAlternative.Gives () after ∧ after.Lacks ["|"]) ∨
      Fails (.on .regexDisjunction parser) ∨ Repeats (.on .regexDisjunction parser) := by
  rcases parser.regexAlternative.gives_or_fails with ⟨⟨⟩, after, hfirst⟩ | hfails
  · rcases attempt_cases after ["|"] with ⟨bar, behind, hbar⟩ | hlacks | ⟨error, last, hfailed⟩
    · exact .inr (.inr ⟨_, .regex (.alternatives hfirst hbar), rfl⟩)
    · exact .inl ⟨after, hfirst, hlacks⟩
    · refine .inr (.inl ⟨(error, last), ?_⟩)
      show parser.regexDisjunction.failure? = _
      rw [Parser.regexDisjunction, Reply.failure?_since]
      refine hfirst.failure?_bind ?_
      simp only [Parser.tryConsume, hfailed]
      rfl
  · exact .inr (.inl (Makes.fails_of (.regex .alternative) hfails))

theorem regexAlternative_round
    (goesOn : ¬ (parser.scanner.atEnd || parser.seesAny ["|", ")", "/"]) = true) :
    Fails (.on .regexAlternative parser) ∨ Repeats (.on .regexAlternative parser) := by
  rcases parser.regexTerm.gives_or_fails with ⟨⟨⟩, after, hfirst⟩ | hfails
  · exact .inr ⟨_, .regex (.terms goesOn hfirst), rfl⟩
  · exact .inl (Makes.fails_of (.regex (.term goesOn)) hfails)

theorem regexMembers_round (goesOn : ¬ parser.sees "]" = true) :
    Fails (.on .regexMembers parser) ∨ Repeats (.on .regexMembers parser) := by
  by_cases hend : parser.scanner.atEnd = true
  · refine .inl ⟨(.lexical (parser.scanner.unexpected ["]"]), parser), ?_⟩
    show parser.regexMembers.failure? = _
    rw [Parser.regexMembers, if_neg goesOn, if_pos hend]
    rfl
  by_cases hopens : parser.seesAny ["[", "[^"] = true
  · rcases parser.regexClass.gives_or_fails with ⟨⟨⟩, after, hfirst⟩ | hfails
    · exact .inr ⟨_, .regex (.behindClass goesOn hend hopens hfirst), rfl⟩
    · exact .inl (Makes.fails_of (.regex (.innerClass goesOn hend hopens)) hfails)
  · rcases (parser.skip ["]"]).gives_or_fails with ⟨⟨⟩, after, hskip⟩ | ⟨failure, hfails⟩
    · obtain ⟨set, hskips⟩ := Parser.gives_skip.1 hskip
      exact .inr ⟨_, .regex (.behindMember goesOn hend hopens hskips), rfl⟩
    · refine .inl ⟨failure, ?_⟩
      show parser.regexMembers.failure? = _
      rw [Parser.regexMembers, if_neg goesOn, if_neg hend, if_neg hopens, Reply.failure?_since]
      exact Reply.failure?_bind hfails

/-- **A loop that is not left fails or comes to another round.** -/
theorem goes_round {call : Call} {leaves : Prop} (h : call.Loop leaves) :
    leaves ∨ call.Fails ∨ call.Repeats := by
  cases h with
  | productions => exact or_iff_not_imp_left.2 fun h => productions_round (not_not.1 h)
  | branches => exact branches_round
  | components => exact or_iff_not_imp_left.2 components_round
  | suffixes => exact suffixes_round
  | codeTokens => exact codeTokens_round
  | regexDisjunction => exact regexDisjunction_round
  | regexAlternative => exact or_iff_not_imp_left.2 regexAlternative_round
  | regexMembers => exact or_iff_not_imp_left.2 regexMembers_round

end Rounds

end Call

/-! ## The whole run -/

/-- What it is to make progress, from a start at a text on. -/
structure Progresses (source : Source) (start : Parser) : Prop where
  /-- Whatever was consumed before, consuming a token set moves the start of the current token on. -/
  moves : ∀ {count} {parser after : Parser} {set}, start.Spends count parser → parser.Skips set after →
    parser.start < after.start
  /-- A loop that is not left fails or comes to another round. -/
  rounds : ∀ {call : Call} {leaves}, call.Loop leaves → leaves ∨ call.Fails ∨ call.Repeats
  /-- From a call to another one of the same function, which is the next round of a loop or a call
  further inside, something is consumed, and that moves the start of the current token on. -/
  apart : ∀ {outer inner}, ReflTransGen Call.Makes (.on .wholeGrammar start) outer →
    TransGen Call.Makes outer inner → inner.routine = outer.routine →
    ∃ count, 0 < count ∧ outer.parser.Spends count inner.parser ∧
      outer.parser.start + count ≤ inner.parser.start
  /-- Where an inner call fails, the outer one fails. -/
  fails : ∀ {outer inner : Call} {failure}, outer.Makes inner → inner.failure? = some failure →
    outer.failure? = some failure
  /-- The run ends behind no more consumptions than the text has bytes. If a record is kept, these
  token sets are on it, besides the current one. -/
  ends : ∃ count last, start.Spends count last ∧ start.wholeGrammar.EndsAt last ∧
    count ≤ source.size ∧ (start.scanner.recorded.isSome = true →
      ∃ consumed, consumed.length = count ∧
        last.scanner.recorded = some (last.scanner.current.toList ++ consumed))

/-- Keeping a record leaves the parser where it stands. -/
theorem Parser.StandsIn.record {source : Source} {scanner : Scanner} {arena : Arena}
    (h : (Parser.mk scanner arena).StandsIn source) :
    (Parser.mk scanner.record arena).StandsIn source := by
  obtain ⟨hsource, htable, mode, text, hat⟩ := h
  exact ⟨hsource, htable, mode, text, hat.first, hat.suffix, hat.offset_eq⟩

/-- A parser that stands in a text makes progress. -/
theorem Parser.StandsIn.progresses {source : Source} {start : Parser} (h : start.StandsIn source)
    (hrecord : ∀ kept, start.scanner.recorded = some kept → kept = start.scanner.current.toList) :
    Progresses source start where
  moves hspends hskips := (hspends.start_add_le h).1.start_lt hskips
  rounds := Call.goes_round
  apart hreached hmakes hsame := by
    obtain ⟨before, hbefore⟩ := Call.spends_of_reflTransGen hreached
    obtain ⟨count, hpos, hspends⟩ := Call.spends_of_transGen hmakes hsame
    -- The outer call stands in the text, as it is reached from the start.
    obtain ⟨-, hle⟩ := hspends.start_add_le (hbefore.start_add_le h).1
    exact ⟨count, hpos, hspends, hle⟩
  fails := Call.Makes.fails
  ends := by
    obtain ⟨count, last, hspends, hends⟩ := Parser.wholeGrammar_costs
    refine ⟨count, last, hspends, hends, hspends.count_le h, fun hsome => ?_⟩
    obtain ⟨kept, hkept⟩ := Option.isSome_iff_exists.1 hsome
    have hstart : start.scanner.recorded = some (start.scanner.current.toList ++ []) := by
      rw [hkept, hrecord kept hkept, List.append_nil]
    obtain ⟨consumed, hlast, hcount⟩ := hspends.recorded h hstart
    exact ⟨consumed, hcount, by rwa [List.append_nil] at hlast⟩

/-- **The parser makes progress on every text**: unless the first token set cannot be scanned, which
ends the run at once, it progresses, whether it keeps a record or not. -/
theorem parser_progresses (source : Source) : ∃ table, Lexicon.table = .ok table ∧
    match Scanner.create table source with
    | .failed error _ => ∀ prepare, (run source prepare).1 = .error (.lexical error)
    | .ok _ scanner =>
      Progresses source ⟨scanner, .empty⟩ ∧ Progresses source ⟨scanner.record, .empty⟩ := by
  obtain ⟨table, htable⟩ := Lexicon.exists_table
  refine ⟨table, htable, ?_⟩
  cases hcreate : Scanner.create table source with
  | failed error scanner =>
    intro prepare
    rw [run_eq, htable]
    simp only [runWith, hcreate]
  | ok _ scanner =>
    obtain ⟨-, hrecorded⟩ := Parser.stands_create .empty htable hcreate
    have hstands : (Parser.mk scanner .empty).StandsIn source := Parser.standsIn_create htable hcreate
    refine ⟨hstands.progresses ?_, hstands.record.progresses ?_⟩
    · exact fun kept hkept => absurd (hrecorded.symm.trans hkept) (by simp)
    · intro kept hkept
      rw [Scanner.record, hrecorded] at hkept
      exact (Option.some.inj hkept).symm.trans (List.append_nil _)

end GrammarLang.Grammar

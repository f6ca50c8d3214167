import GrammarLang.Proofs.Grammar.Attempts

/-! # Token sets that are evaluated

A run evaluates the first token set of the text, and one more wherever it moves the scanner on:
**`Evaluates`** lists the scanners that it advances. If one of them fails, the run fails with the same
failure (**`Evaluates.fails`**). The other way round, where a run fails because a token set cannot be
read, one of these scanners is to blame: a call that fails so has moved the scanner on itself, or has
made a call that fails so (**`Call.blames`**), and this leads to a call that has moved it on. So a
text is refused because of an unreadable token set just if its run evaluates one:
**`result_unreadable_iff`**. -/

namespace GrammarLang.Scan

/-- Whether a failure says that a token set cannot be read: no rule matches the text, or the text
stands for no value. -/
def Error.isUnreadable : Error → Bool
  | .invalidToken .. => true
  | .decode .. => true
  | _ => false

/-- Text that cannot be read is no failure of looking ahead. -/
theorem Scanner.isUnreadable_of_stepAhead {scanner there : Scanner} {error : Error}
    (h : scanner.stepAhead = .failed error there) : error.isUnreadable = false := by
  simp only [stepAhead] at h
  split at h
  all_goals first
    | contradiction
    | (cases h; rfl)

theorem Scanner.isUnreadable_of_stepsAhead {scanner there : Scanner} {last : Sighting} {count : Nat}
    {error : Error} (h : scanner.stepsAhead last count = .failed error there) :
    error.isUnreadable = false := by
  induction count generalizing scanner last with
  | zero => contradiction
  | succ count ih =>
    cases last with
    | tokens set =>
      simp only [stepsAhead] at h
      cases hstep : scanner.stepAhead with
      | failed failure middle =>
        rw [hstep] at h
        cases h
        exact isUnreadable_of_stepAhead hstep
      | ok seen middle =>
        rw [hstep] at h
        cases hothers : middle.stepsAhead seen count with
        | failed failure last =>
          simp only [hothers, Outcome.map] at h
          cases h
          exact ih hothers
        | ok others last =>
          simp only [hothers, Outcome.map] at h
          contradiction
    | atEnd => contradiction
    | unknown => contradiction

theorem Scanner.isUnreadable_of_matchesSequence {scanner there : Scanner} {rules : List String}
    {error : Error} (h : scanner.matchesSequence rules = .failed error there) :
    error.isUnreadable = false := by
  have hlook (count : Nat) {failure : Error} {last : Scanner}
      (hfailed : scanner.lookAhead count = .failed failure last) : failure.isUnreadable = false := by
    simp only [lookAhead] at hfailed
    split at hfailed
    · contradiction
    · cases hfailed
      rfl
    · rename_i hsteps
      cases hfailed
      exact isUnreadable_of_stepsAhead hsteps
  cases rules with
  | nil => contradiction
  | cons rule others =>
    simp only [matchesSequence] at h
    split at h
    · contradiction
    · split at h
      · contradiction
      · cases hlooked : scanner.lookAhead others.length with
        | ok seen last =>
          simp only [hlooked, Outcome.map] at h
          contradiction
        | failed failure last =>
          simp only [hlooked, Outcome.map] at h
          cases h
          exact hlook _ hlooked

end GrammarLang.Scan

namespace GrammarLang.Grammar

open GrammarLang.Scan GrammarLang.Text Relation

open Lexicon (ident number string)

/-! ## Who is to blame -/

/-- A call is to blame for a failure of the scanner, itself or with a call that it makes. -/
def Call.Blamed (call : Call) (error : Error) (after : Parser) : Prop :=
  (∃ inner, call.Makes inner ∧ inner.failure? = some (.lexical error, after)) ∨
    ∃ state scanner, call.MovesOn state ∧ state.scanner.next = .failed error scanner

namespace Reply

variable {α β : Type} {least more fewer : Nat} {parser earlier : Parser} {call : Call}

/-- Where a reply fails because a token set cannot be read, the call is to blame. -/
def Blames (call : Call) (reply : Reply α least parser) : Prop :=
  ∀ error after, reply.failure? = some (.lexical error, after) → error.isUnreadable = true →
    call.Blamed error after

namespace Blames

variable {reply : Reply α least parser}

theorem of_none (h : reply.failure? = none) : reply.Blames call := by
  intro error after hfails
  rw [h] at hfails
  contradiction

theorem done (value : α) (parser : Parser) : (Reply.done value parser).Blames call := of_none rfl

theorem ok {value : α} {after : Parser} {used : after.remaining + least ≤ parser.remaining} :
    (Reply.ok value after used).Blames call := of_none rfl

/-- Any other failure is one for which nobody is blamed. -/
theorem other {failure : ParseError} {after : Parser}
    (h : ∀ error, failure = .lexical error → error.isUnreadable = false) :
    (Reply.failed failure after : Reply α least parser).Blames call := by
  intro error last hfails hunreadable
  obtain ⟨rfl, -⟩ := Prod.mk.inj (Option.some.inj hfails)
  rw [h error rfl] at hunreadable
  contradiction

/-- What an inner call answers is the inner call's. -/
theorem made {inner : Call} (hmakes : call.Makes inner) (h : inner.failure? = reply.failure?) :
    reply.Blames call :=
  fun _ _ hfails _ => .inl ⟨inner, hmakes, h.trans hfails⟩

theorem bind {next : (value : α) → (after : Parser) → after.remaining + least ≤ parser.remaining →
      Reply β more after} (h : reply.Blames call)
    (hnext : ∀ value middle (hgives : reply.Gives value middle),
      (next value middle hgives.remaining_le).Blames call) : (reply.bind next).Blames call := by
  intro error last hfails hunreadable
  cases reply with
  | failed failure middle => exact h error last hfails hunreadable
  | ok value middle used =>
    refine hnext value middle ⟨used, rfl⟩ error last ?_ hunreadable
    simp only [Reply.bind] at hfails
    cases hresult : next value middle used with
    | ok result after _ =>
      rw [hresult] at hfails
      contradiction
    | failed failure after =>
      rw [hresult] at hfails
      exact hfails

theorem map {change : α → β} (h : reply.Blames call) : (reply.map change).Blames call := by
  intro error after hfails
  exact h error after ((failure?_map _ _).symm.trans hfails)

theorem since {used : parser.remaining + fewer ≤ earlier.remaining + least} (h : reply.Blames call) :
    (reply.since used).Blames call := by
  intro error after hfails
  exact h error after ((failure?_since _ _).symm.trans hfails)

theorem across {same : parser.remaining = earlier.remaining} (h : reply.Blames call) :
    (reply.across same).Blames call := by
  intro error after hfails
  exact h error after ((failure?_across _ _).symm.trans hfails)

end Blames

end Reply

namespace Parser

variable {parser after : Parser} {rules : List String} {α : Type} {least : Nat} {call : Call}

/-! ## Steps -/

theorem unexpected_not_unreadable (scanner : Scanner) (names : List String) :
    (scanner.unexpected names).isUnreadable = false := by
  rw [Scanner.unexpected]
  split <;> rfl

theorem expected_blames {names : List String} :
    (parser.expected names : Reply α least parser).Blames call := by
  refine .other fun error herror => ?_
  cases herror
  exact unexpected_not_unreadable _ _

/-- Where an attempt that the call makes fails because a token set cannot be read, the call is to
blame. -/
theorem blamed_of_attempt {error : Error} (hasks : call.Asks parser rules)
    (h : parser.tryConsumeAny rules = .failed (.lexical error) after)
    (hunreadable : error.isUnreadable = true) : call.Blamed error after := by
  rcases cases_of_attempt_failed h with
    ⟨token, failure, scanner, halternatives, hnext, heq, -⟩ | ⟨_, _, _, heq, -⟩
  · cases heq
    exact .inr ⟨parser, scanner, .inl ⟨rules, token, hasks, halternatives⟩, hnext⟩
  · -- A choice between tokens fails before anything is read.
    cases heq
    contradiction

theorem attempt_blames {earlier : Parser} {absent : Reply α least earlier}
    {taken : (token : Token) → (middle : Parser) → middle.remaining + 1 ≤ parser.remaining →
      Reply α least earlier} (hasks : call.Asks parser rules)
    (htaken : ∀ token middle (htakes : parser.Takes rules token middle),
      (taken token middle htakes.remaining_le).Blames call)
    (habsent : parser.Lacks rules → absent.Blames call) :
    (match parser.tryConsumeAny rules with
      | .failed error middle => Reply.failed error middle
      | .taken token middle used => taken token middle used
      | .absent => absent).Blames call := by
  cases h : parser.tryConsumeAny rules with
  | failed failure middle =>
    rintro error last hfails hunreadable
    cases hfails
    exact blamed_of_attempt hasks h hunreadable
  | taken token middle used => exact htaken token middle (takes_iff.2 ⟨used, h⟩)
  | absent => exact habsent (lacks_iff.2 h)

/-- The same where the failure to find a token is looked at first. -/
theorem attempt_absent_blames {earlier : Parser} {absent : Reply α least earlier}
    {taken : (token : Token) → (middle : Parser) → middle.remaining + 1 ≤ parser.remaining →
      Reply α least earlier} (hasks : call.Asks parser rules)
    (htaken : ∀ token middle (htakes : parser.Takes rules token middle),
      (taken token middle htakes.remaining_le).Blames call)
    (habsent : parser.Lacks rules → absent.Blames call) :
    (match parser.tryConsumeAny rules with
      | .failed error middle => Reply.failed error middle
      | .absent => absent
      | .taken token middle used => taken token middle used).Blames call := by
  have hattempt := attempt_blames hasks htaken habsent
  cases h : parser.tryConsumeAny rules <;> simpa only [h] using hattempt

theorem consumeAny_blames (hasks : call.Asks parser rules) :
    (parser.consumeAny rules).Blames call := by
  rw [consumeAny_eq]
  exact attempt_blames hasks (fun _ _ _ => .ok) fun _ => expected_blames

theorem consume_blames {rule : String} (hasks : call.Asks parser [rule]) :
    (parser.consume rule).Blames call := consumeAny_blames hasks

theorem skip_blames {names : List String} (hpasses : call.Passes parser) :
    (parser.skip names).Blames call := by
  rw [skip]
  split
  · exact expected_blames
  · rename_i set hcurrent
    split
    · exact .ok
    · rename_i error scanner hnext
      rintro failure last hfails -
      cases hfails
      exact .inr ⟨parser, scanner, .inr ⟨hpasses, by rw [hcurrent]; rfl⟩, hnext⟩

theorem seesSequence_blames : (parser.seesSequence rules).Blames call := by
  rw [seesSequence]
  split
  · exact .done _ _
  · rename_i hfailed
    refine .other fun error herror => ?_
    cases herror
    exact Scanner.isUnreadable_of_matchesSequence hfailed

theorem textBetween_blames {start stop : Nat} : (parser.textBetween start stop).Blames call := by
  rw [textBetween]
  split
  · exact .done _ _
  · exact .other (by simp)

theorem intern_blames {terminal : Terminal} : (parser.intern terminal).Blames call := .ok

end Parser

namespace Call

open GrammarLang.Grammar.Parser (expected_blames attempt_blames attempt_absent_blames
  consumeAny_blames consume_blames skip_blames seesSequence_blames textBetween_blames intern_blames
  gives_attempt_absent gives_consume gives_consumeAny gives_skip gives_seesSequence
  gives_textBetween)

variable {parser : Parser}

/-! ## Code and regular expressions -/

theorem codeTokens_blames {depth : Nat} :
    (Parser.codeTokens depth parser).Blames (.inCode depth parser) := by
  rw [Parser.codeTokens]
  split
  · rename_i hopens
    refine .since ((skip_blames (.code (.inl hopens))).bind fun _ after hskip => ?_)
    obtain ⟨set, hskips⟩ := gives_skip.1 hskip
    exact .made (.code (.opened hopens hskips)) rfl
  · rename_i hopens
    split
    · exact .done _ _
    · rename_i hends
      refine .since ((skip_blames (.code (.inr hends))).bind fun _ after hskip => ?_)
      obtain ⟨set, hskips⟩ := gives_skip.1 hskip
      exact .made (.code (.passed hopens hends hskips)) rfl

theorem codeSegment_blames : parser.codeSegment.Blames (.on .codeSegment parser) := by
  rw [Parser.codeSegment]
  refine .since ((consume_blames (.code .opening)).bind fun _ inside hopens => ?_)
  have htakes := gives_consume.1 hopens
  refine (Reply.Blames.made (.code (.segment htakes)) rfl).bind fun _ behind hread => ?_
  refine (Reply.Blames.across (consume_blames (.code (.closing htakes hread)))).bind fun _ _ _ => ?_
  exact textBetween_blames.map

theorem regexClass_blames : parser.regexClass.Blames (.on .regexClass parser) := by
  rw [Parser.regexClass]
  refine .since ((consumeAny_blames (.regex .cls)).bind fun _ inside hopens => ?_)
  have htakes := gives_consumeAny.1 hopens
  refine attempt_absent_blames (.regex (.bracket htakes)) (fun _ further hfirst => ?_) fun hplain => ?_
  · refine (Reply.Blames.made (.regex (.membersBehind htakes hfirst))
      (Reply.failure?_since _ _).symm).bind fun _ behind hread => ?_
    exact (consume_blames (.regex (.clsEndBehind htakes hfirst (Reply.gives_since.1 hread)))).map
  · refine (Reply.Blames.made (.regex (.members htakes hplain)) rfl).bind fun _ behind hread => ?_
    exact (consume_blames (.regex (.clsEnd htakes hplain hread))).map

theorem regexMembers_blames : parser.regexMembers.Blames (.on .regexMembers parser) := by
  rw [Parser.regexMembers]
  split
  · exact .done _ _
  rename_i hgoesOn
  split
  · exact expected_blames
  rename_i hinText
  split
  · rename_i hopens
    refine .since ((Reply.Blames.made (.regex (.innerClass hgoesOn hinText hopens)) rfl).bind
      fun _ after hfirst => ?_)
    exact .made (.regex (.behindClass hgoesOn hinText hopens hfirst)) rfl
  · rename_i hopensNot
    refine .since ((skip_blames (.member hgoesOn hinText hopensNot)).bind fun _ after hskip => ?_)
    obtain ⟨set, hskips⟩ := gives_skip.1 hskip
    exact .made (.regex (.behindMember hgoesOn hinText hopensNot hskips)) rfl

theorem regexDisjunction_blames : parser.regexDisjunction.Blames (.on .regexDisjunction parser) := by
  rw [Parser.regexDisjunction]
  refine .since ((Reply.Blames.made (.regex .alternative) rfl).bind fun _ after hfirst => ?_)
  refine attempt_absent_blames (.regex (.bar hfirst)) (fun _ last hbar => ?_) fun _ => .done _ _
  exact .made (.regex (.alternatives hfirst hbar)) (Reply.failure?_since _ _).symm

theorem regexAlternative_blames : parser.regexAlternative.Blames (.on .regexAlternative parser) := by
  rw [Parser.regexAlternative]
  split
  · exact .done _ _
  · rename_i hgoesOn
    refine .since ((Reply.Blames.made (.regex (.term hgoesOn)) rfl).bind fun _ after hfirst => ?_)
    exact .made (.regex (.terms hgoesOn hfirst)) rfl

theorem regexTerm_blames : parser.regexTerm.Blames (.on .regexTerm parser) := by
  rw [Parser.regexTerm]
  refine attempt_blames (.regex .condition) (fun _ _ _ => .ok) fun hplain => ?_
  refine attempt_blames (.regex (.lookaround hplain)) (fun _ inside hopens => ?_) fun hopensNot => ?_
  · refine .since ((Reply.Blames.made (.regex (.lookaround hplain hopens)) rfl).bind
      fun _ behind hread => ?_)
    exact (consume_blames (.regex (.lookaroundEnd hplain hopens hread))).map
  · refine (Reply.Blames.made (.regex (.atom hplain hopensNot)) rfl).bind fun _ after hfirst => ?_
    rw [Parser.regexQuantifier]
    refine attempt_absent_blames (.regex (.quantifier hplain hopensNot hfirst))
      (fun _ last hcounted => ?_) fun _ => .done _ _
    exact attempt_absent_blames (.regex (.reluctant hplain hopensNot hfirst hcounted))
      (fun _ _ _ => .ok) fun _ => .ok

theorem regexAtom_blames : parser.regexAtom.Blames (.on .regexAtom parser) := by
  rw [Parser.regexAtom]
  refine attempt_blames (.regex .atom) (fun _ _ _ => .ok) fun hplain => ?_
  split
  · rename_i hopens
    exact .made (.regex (.classAtom hplain hopens)) rfl
  rename_i hopensNot
  refine attempt_blames (.regex (.group hplain hopensNot)) (fun _ inside hopens => ?_)
    fun _ => expected_blames
  refine .since ((Reply.Blames.made (.regex (.group hplain hopensNot hopens)) rfl).bind
    fun _ behind hread => ?_)
  exact (consume_blames (.regex (.groupEnd hplain hopensNot hopens hread))).map

theorem regexLiteral_blames : parser.regexLiteral.Blames (.on .regexLiteral parser) := by
  rw [Parser.regexLiteral]
  refine .since ((consume_blames (.regex .opening)).bind fun _ inside hopening => ?_)
  have hopens := gives_consume.1 hopening
  refine (Reply.Blames.made (.regex (.literal hopens)) rfl).bind fun _ behind hread => ?_
  split
  · rename_i hcloses
    refine (Reply.Blames.across (consume_blames (.regex (.closing hopens hread hcloses)))).bind
      fun _ after hclosing => ?_
    have hclosed := gives_consume.1 (Reply.gives_across.1 hclosing)
    refine textBetween_blames.bind fun _ same htext => ?_
    obtain ⟨hshown, rfl⟩ := gives_textBetween.1 htext
    refine Reply.Blames.bind ?_ fun flags last _ => ?_
    · rw [Parser.regexFlags]
      split
      · exact .done _ _
      rename_i name hnamed
      split
      · rename_i htouches
        exact .since (consume_blames (.regex
          (.flags hopens hread hcloses hclosed hshown hnamed htouches))).map
      · exact .done _ _
    · rw [Parser.regexSet]
      split
      · exact .done _ _
      · exact .other (by simp)
      · exact .other (by simp)
  · exact expected_blames

/-! ## Components -/

theorem terminal_blames : parser.terminal.Blames (.on .terminal parser) := by
  rw [Parser.terminal]
  refine attempt_blames (.component .name) (fun _ _ _ => .since intern_blames) fun hunnamed => ?_
  refine attempt_blames (.component (.number hunnamed)) (fun _ _ _ => .since intern_blames)
    fun huncounted => ?_
  refine attempt_blames (.component (.string hunnamed huncounted))
    (fun _ _ _ => .since intern_blames) fun hunquoted => ?_
  split
  · rename_i hopens
    exact (Reply.Blames.made (.component (.regex hunnamed huncounted hunquoted hopens)) rfl).bind
      fun _ _ _ => intern_blames
  · exact expected_blames

theorem rangeSuffix_blames {call : Call}
    (hasks : ∀ {state rules}, AsksInRange parser state rules → call.Asks state rules) :
    parser.rangeSuffix.Blames call := by
  -- Each further token is asked for where the ones before it have been taken.
  rw [Parser.rangeSuffix]
  refine .since ((consume_blames (hasks .opening)).bind fun _ inside hopening => ?_)
  have hopens := gives_consume.1 hopening
  refine (consume_blames (hasks (.lowest hopens))).bind fun _ after hlowest => ?_
  have hlower := gives_consume.1 hlowest
  refine Reply.Blames.bind ?_ fun upper behind hupper => ?_
  · refine attempt_absent_blames (hasks (.comma hopens hlower)) (fun _ last hcomma => .since ?_)
      fun _ => .done _ _
    rw [Parser.upperBound]
    exact attempt_blames (hasks (.highest hopens hlower hcomma)) (fun _ _ _ => .ok) fun _ => .done _ _
  -- How the closing brace is asked for depends on whether there was a comma.
  · have hcloses : call.Asks behind ["\x7d"] := by
      rcases gives_attempt_absent.1 hupper with ⟨comma, last, hcomma, hbound⟩ | ⟨honly, hdone⟩
      · exact hasks (.closingBehind hopens hlower hcomma (Reply.gives_since.1 hbound))
      · obtain ⟨-, rfl⟩ := Reply.gives_done.1 hdone
        exact hasks (.closing hopens hlower honly)
    refine (consume_blames hcloses).bind fun _ last _ => ?_
    cases upper with
    | none => exact .done _ _
    | some bound =>
      simp only
      split
      · exact .other (by simp)
      · exact .done _ _

theorem suffixes_blames : parser.suffixes.Blames (.on .suffixes parser) := by
  rw [Parser.suffixes]
  refine attempt_blames (.component .sign) (fun _ after hsign => ?_) fun hplain => ?_
  · exact .since (Reply.Blames.map (.made (.component (.behindSign hsign)) rfl))
  · refine .since (seesSequence_blames.bind fun isRange same hsame => ?_)
    obtain ⟨hforesees, rfl⟩ := gives_seesSequence.1 hsame
    split
    · rename_i hrange
      subst hrange
      refine .since ((rangeSuffix_blames fun hasks =>
        .component (.range hplain hforesees hasks)).bind fun _ after hfirst => ?_)
      exact Reply.Blames.map (.made (.component (.behindRange hplain hforesees hfirst)) rfl)
    · exact .done _ _

theorem codeInFront_blames : parser.codeInFront.Blames (.on .codeInFront parser) := by
  rw [Parser.codeInFront]
  split
  · rename_i hopens
    refine .since ((Reply.Blames.made (.component (.firstCode hopens)) rfl).bind
      fun _ after hfirst => ?_)
    refine attempt_absent_blames (.component (.mark hopens hfirst)) (fun _ last hmark => ?_)
      fun _ => .done _ _
    split
    · rename_i hagain
      exact .since (Reply.Blames.map
        (.made (.component (.secondCode hopens hfirst hmark hagain)) rfl))
    · exact .ok
  · exact .done _ _

theorem codeBehind_blames : parser.codeBehind.Blames (.on .codeBehind parser) := by
  rw [Parser.codeBehind]
  split
  · rename_i hopens
    exact .since (Reply.Blames.map (.made (.component (.lastCode hopens)) rfl))
  · exact .done _ _

theorem component_blames : parser.component.Blames (.on .component parser) := by
  rw [Parser.component]
  refine .since ((Reply.Blames.made (.component .codeInFront) rfl).bind fun _ atLabel hfront => ?_)
  refine Reply.Blames.bind ?_ fun _ atElement hnamed => ?_
  · rw [Parser.labelName]
    refine .since (seesSequence_blames.bind fun isLabel same hsame => ?_)
    obtain ⟨hforesees, rfl⟩ := gives_seesSequence.1 hsame
    split
    · rename_i hlabel
      subst hlabel
      refine .since ((consume_blames (.component (.label hfront hforesees))).bind
        fun _ after hname => ?_)
      exact (consume_blames (.component (.equals hfront hforesees (gives_consume.1 hname)))).map
    · exact .done _ _
  refine (Reply.Blames.made (.component (.element hfront hnamed)) rfl).bind fun _ _ hread => ?_
  refine (Reply.Blames.made (.component (.suffixes hfront hnamed hread)) rfl).bind
    fun _ _ hcounted => ?_
  refine (Reply.Blames.made (.component (.codeBehind hfront hnamed hread hcounted)) rfl).bind
    fun _ _ _ => .done _ _

/-! ## Branches and productions -/

theorem branches_blames : parser.branches.Blames (.on .branches parser) := by
  rw [Parser.branches]
  refine .since ((Reply.Blames.made (.tree .branch) rfl).bind fun _ after hfirst => ?_)
  refine attempt_absent_blames (.tree (.bar hfirst)) (fun _ last hbar => ?_) fun _ => .done _ _
  exact .since (Reply.Blames.map (.made (.tree (.moreBranches hfirst hbar)) rfl))

theorem branch_blames : parser.branch.Blames (.on .branch parser) := by
  rw [Parser.branch]
  exact .since ((Reply.Blames.made (.tree .components) rfl).bind fun _ _ _ => .done _ _)

theorem components_blames : parser.components.Blames (.on .components parser) := by
  rw [Parser.components]
  split
  · exact .done _ _
  · rename_i hgoesOn
    refine .since ((Reply.Blames.made (.tree (.component hgoesOn)) rfl).bind
      fun _ after hfirst => ?_)
    exact Reply.Blames.map (.made (.tree (.moreComponents hgoesOn hfirst)) rfl)

theorem element_blames : parser.element.Blames (.on .element parser) := by
  rw [Parser.element]
  refine attempt_blames (.tree .tilde) (fun _ after hsign => ?_) fun hplain => ?_
  · exact .since (Reply.Blames.map (.made (.tree (.negated hsign)) rfl))
  refine attempt_blames (.tree (.group hplain)) (fun _ inside hopens => ?_) fun hopensNot => ?_
  · refine .since ((Reply.Blames.made (.tree (.grouped hplain hopens)) rfl).bind
      fun _ behind hread => ?_)
    exact (consume_blames (.tree (.groupEnd hplain hopens hread))).map
  · exact Reply.Blames.map (.made (.tree (.terminal hplain hopensNot)) rfl)

theorem production_blames : parser.production.Blames (.on .production parser) := by
  rw [Parser.production]
  refine .since ((consume_blames (.tree .production)).bind fun _ middle hname => ?_)
  have hnamed := gives_consume.1 hname
  refine (consume_blames (.tree (.colon hnamed))).bind fun _ inside hcolon => ?_
  have hstarts := gives_consume.1 hcolon
  refine (Reply.Blames.made (.tree (.branches hnamed hstarts)) rfl).bind fun _ after hread => ?_
  refine (consume_blames (.tree (.semicolon hnamed hstarts hread))).bind fun _ _ _ => ?_
  exact .across (.done _ _)

theorem productions_blames : parser.productions.Blames (.on .productions parser) := by
  rw [Parser.productions]
  split
  · rename_i hgoesOn
    refine .since ((Reply.Blames.made (.tree (.production hgoesOn)) rfl).bind
      fun _ after hfirst => ?_)
    exact Reply.Blames.map (.made (.tree (.moreProductions hgoesOn hfirst)) rfl)
  · exact .done _ _

theorem wholeGrammar_blames : parser.wholeGrammar.Blames (.on .wholeGrammar parser) := by
  rw [Parser.wholeGrammar]
  refine .since ((consume_blames (.tree .keyword)).bind fun _ middle hkeyword => ?_)
  have hstarted := gives_consume.1 hkeyword
  refine (consume_blames (.tree (.name hstarted))).bind fun _ inside hname => ?_
  have hnamed := gives_consume.1 hname
  refine (consume_blames (.tree (.opening hstarted hnamed))).bind fun _ after hopening => ?_
  have hopens := gives_consume.1 hopening
  refine (Reply.Blames.made (.tree (.productions hstarted hnamed hopens)) rfl).bind
    fun _ last hread => ?_
  split
  · rename_i hcloses
    refine (consume_blames (.tree (.closing hstarted hnamed hopens hread hcloses))).bind
      fun _ _ _ => ?_
    split
    · exact .done _ _
    · exact expected_blames
  · exact expected_blames

/-! ## Calls -/

section Blaming

variable {call outer inner : Call} {error : Error} {after : Parser}

/-- Only in code are braces counted. -/
def Proper (call : Call) : Prop := call.routine = .codeTokens ∨ call.depth = 0

theorem Makes.proper (h : outer.Makes inner) : inner.Proper := by
  cases h with
  | code made => cases made <;> exact .inl rfl
  | regex made => cases made <;> exact .inr rfl
  | component made => cases made <;> exact .inr rfl
  | tree made => cases made <;> exact .inr rfl

/-- **A call that fails because a token set cannot be read** has moved the scanner on to it, or has made
a call that fails so. -/
theorem blames (hproper : call.Proper) (h : call.failure? = some (.lexical error, after))
    (hunreadable : error.isUnreadable = true) : call.Blamed error after := by
  obtain ⟨routine, depth, parser⟩ := call
  -- A depth says something for code only; each other function is called without one.
  rcases hproper with hcode | hdepth
  · obtain rfl : routine = .codeTokens := hcode
    exact codeTokens_blames error after h hunreadable
  · obtain rfl : depth = 0 := hdepth
    cases routine with
    | wholeGrammar => exact wholeGrammar_blames error after h hunreadable
    | productions => exact productions_blames error after h hunreadable
    | production => exact production_blames error after h hunreadable
    | branches => exact branches_blames error after h hunreadable
    | branch => exact branch_blames error after h hunreadable
    | components => exact components_blames error after h hunreadable
    | component => exact component_blames error after h hunreadable
    | element => exact element_blames error after h hunreadable
    | terminal => exact terminal_blames error after h hunreadable
    | suffixes => exact suffixes_blames error after h hunreadable
    | codeInFront => exact codeInFront_blames error after h hunreadable
    | codeBehind => exact codeBehind_blames error after h hunreadable
    | codeSegment => exact codeSegment_blames error after h hunreadable
    | codeTokens => exact codeTokens_blames error after h hunreadable
    | regexLiteral => exact regexLiteral_blames error after h hunreadable
    | regexDisjunction => exact regexDisjunction_blames error after h hunreadable
    | regexAlternative => exact regexAlternative_blames error after h hunreadable
    | regexTerm => exact regexTerm_blames error after h hunreadable
    | regexAtom => exact regexAtom_blames error after h hunreadable
    | regexClass => exact regexClass_blames error after h hunreadable
    | regexMembers => exact regexMembers_blames error after h hunreadable

theorem rank_lt_ten (routine : Routine) : routine.rank < 10 := by cases routine <;> decide

/-- From a call that fails because a token set cannot be read, calls lead to one that has moved the
scanner on to it. -/
theorem exists_movesOn {call : Call} (hproper : call.Proper)
    (h : call.failure? = some (.lexical error, after)) (hunreadable : error.isUnreadable = true) :
    ∃ inner state scanner, ReflTransGen Makes call inner ∧ inner.MovesOn state ∧
      state.scanner.next = .failed error scanner := by
  rcases blames hproper h hunreadable with ⟨inner, hmakes, hinner⟩ | ⟨state, scanner, hmoves, hnext⟩
  · obtain ⟨last, state, scanner, hreached, hmoves, hnext⟩ :=
      exists_movesOn hmakes.proper hinner hunreadable
    exact ⟨last, state, scanner, .head hmakes hreached, hmoves, hnext⟩
  · exact ⟨call, state, scanner, .refl, hmoves, hnext⟩
termination_by 10 * call.parser.remaining + call.routine.rank
decreasing_by
  -- Something is consumed, or the rank gets lower.
  obtain ⟨count, hspends, hrank⟩ := hmakes.descends
  obtain ⟨hless, -⟩ := hspends.remaining_le
  have hbound := rank_lt_ten inner.routine
  rcases Nat.eq_zero_or_pos count with hzero | hpos
  · have := hrank hzero
    omega
  · omega

/-- A failure is handed on from call to call. -/
theorem fails_of_reflTransGen {failure : ParseError × Parser} (h : ReflTransGen Makes outer inner)
    (hinner : inner.failure? = some failure) : outer.failure? = some failure := by
  induction h using ReflTransGen.head_induction_on with
  | refl => exact hinner
  | head made _ ih => exact made.fails ih

end Blaming

end Call

/-! ## Whole runs -/

namespace Call

/-- A run on a text makes the call. -/
def MadeIn (call : Call) (source : Source) : Prop :=
  ∃ table scanner, Lexicon.table = .ok table ∧ Scanner.create table source = .ok () scanner ∧
    ReflTransGen Makes (.on .wholeGrammar ⟨scanner, .empty⟩) call

namespace MadeIn

variable {source : Source} {call : Call}

/-- **The run fails as one of its calls does.** -/
theorem result_of_failure (h : call.MadeIn source) {failure : ParseError × Parser}
    (hfailure : call.failure? = some failure) : (parse source).result = .error failure.1 := by
  obtain ⟨table, scanner, compiled, created, reached⟩ := h
  have hfails : (Parser.wholeGrammar ⟨scanner, .empty⟩).failure? = some failure :=
    fails_of_reflTransGen reached hfailure
  rw [result_parse, run_eq, compiled]
  simp only [runWith, created, id_eq]
  cases hreply : Parser.wholeGrammar ⟨scanner, .empty⟩ with
  | ok grammar last used =>
    rw [hreply] at hfails
    contradiction
  | failed failed last =>
    rw [hreply] at hfails
    cases hfails
    rfl

/-- Where a call of the run comes to, the parser stands in its text. -/
theorem standsIn (h : call.MadeIn source) {state : Parser} (hcomes : call.Comes state) :
    state.StandsIn source := by
  obtain ⟨table, scanner, compiled, created, reached⟩ := h
  obtain ⟨count, hspends⟩ := spends_of_reflTransGen reached
  obtain ⟨more, hmore⟩ := hcomes
  have hstart : (Parser.mk scanner .empty).StandsIn source := Parser.standsIn_create compiled created
  exact ((hspends.trans hmore).start_add_le hstart).1

end MadeIn

end Call

/-- A run on a text advances a scanner, which evaluates a token set. -/
inductive Evaluates (source : Source) : Scanner → Prop
  /-- The first token set is evaluated before parsing starts. -/
  | first {table : RuleTable} (compiled : Lexicon.table = .ok table) :
      Evaluates source (.initial table source)
  /-- Another one is evaluated where a call moves the scanner on. -/
  | behind {call : Call} {state : Parser} (made : call.MadeIn source) (moves : call.MovesOn state) :
      Evaluates source state.scanner.behindCurrent

namespace Evaluates

variable {source : Source} {scanner after : Scanner} {error : Error}

/-- **Where a token set cannot be evaluated, the run fails** with that failure. -/
theorem fails (h : Evaluates source scanner) (hadvance : scanner.advance = .failed error after) :
    (parse source).result = .error (.lexical error) := by
  cases h with
  | @first table compiled =>
    rw [result_parse, run_eq, compiled]
    simp only [runWith, Scanner.create_eq, hadvance]
    rfl
  | behind made moves =>
    rw [← Scanner.next_eq] at hadvance
    exact made.result_of_failure (moves.fails hadvance)

/-- A scanner that is advanced has the rules of the notation and the text of the run. -/
theorem standsIn (h : Evaluates source scanner) :
    Lexicon.table = .ok scanner.table ∧ scanner.source = source := by
  cases h with
  | first compiled => exact ⟨compiled, rfl⟩
  | behind made moves =>
    have hstands := made.standsIn moves.comes
    exact ⟨hstands.table, hstands.source_eq⟩

end Evaluates

/-- **A text is refused because of an unreadable token set just if its run evaluates one.** -/
theorem result_unreadable_iff {source : Source} {error : Error} (hunreadable : error.isUnreadable = true) :
    (parse source).result = .error (.lexical error) ↔
      ∃ scanner after, Evaluates source scanner ∧ scanner.advance = .failed error after := by
  constructor
  · intro h
    obtain ⟨table, htable⟩ := Lexicon.exists_table
    rw [result_parse, run_eq, htable] at h
    cases hcreate : Scanner.create table source with
    | failed failure last =>
      simp only [runWith, hcreate] at h
      cases h
      exact ⟨_, last, .first htable, hcreate⟩
    | ok _ scanner =>
      simp only [runWith, hcreate, id_eq] at h
      cases hreply : Parser.wholeGrammar ⟨scanner, .empty⟩ with
      | ok grammar last used =>
        rw [hreply] at h
        contradiction
      | failed failed last =>
        rw [hreply] at h
        cases h
        -- The first token could be read, so it is one of the calls that has moved the scanner on.
        have hfails : (Call.on .wholeGrammar ⟨scanner, .empty⟩).failure? =
            some (.lexical error, last) := congrArg Reply.failure? hreply
        obtain ⟨call, state, after, hreached, hmoves, hnext⟩ :=
          Call.exists_movesOn (.inr rfl) hfails hunreadable
        rw [Scanner.next_eq] at hnext
        exact ⟨_, after, .behind ⟨table, scanner, htable, hcreate, hreached⟩ hmoves, hnext⟩
  · rintro ⟨scanner, after, hevaluates, hadvance⟩
    exact hevaluates.fails hadvance

end GrammarLang.Grammar

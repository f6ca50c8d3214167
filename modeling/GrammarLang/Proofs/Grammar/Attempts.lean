import GrammarLang.Proofs.Grammar.Progress

/-! # Where the scanner is moved on

The parser moves its scanner on when it consumes a token or passes a token set over. **`Call.Asks`**
says for each function at which states it asks for a token of some rules, and **`Call.Passes`** where
it takes the current token set for what it is. Moving on evaluates the token set behind, which may
fail, and there is no place where the parser goes on from that: **`Call.MovesOn.fails`**. -/

namespace GrammarLang.Grammar

open GrammarLang.Scan GrammarLang.Text Relation

open Lexicon (ident number string)

namespace Call

/-! ## Asking for tokens -/

/-- Where tokens are asked for in code. -/
inductive AsksInCode : Call → Parser → List String → Prop
  /-- The brace that opens it. -/
  | opening {parser : Parser} :
      AsksInCode (.on .codeSegment parser) (parser.enter Lexicon.codeMode) ["\x7b"]
  /-- The brace that closes it. -/
  | closing {parser inside behind : Parser} {token : Token}
      (opens : (parser.enter Lexicon.codeMode).Takes ["\x7b"] token inside)
      (read : (Parser.codeTokens 0 inside).Gives () behind) :
      AsksInCode (.on .codeSegment parser) behind.leave ["\x7d"]

/-- Where tokens are asked for in a regular expression. -/
inductive AsksInRegex : Call → Parser → List String → Prop
  /-- The opening slash. -/
  | opening {parser : Parser} :
      AsksInRegex (.on .regexLiteral parser) (parser.enter Lexicon.regexMode) ["/"]
  /-- The closing slash. -/
  | closing {parser inside behind : Parser} {token : Token}
      (opens : (parser.enter Lexicon.regexMode).Takes ["/"] token inside)
      (read : inside.regexDisjunction.Gives () behind) (closes : behind.sees "/" = true) :
      AsksInRegex (.on .regexLiteral parser) behind.leave ["/"]
  /-- A name that touches the closing slash. -/
  | flags {parser inside behind after : Parser} {token slash name : Token} {text : String}
      (opens : (parser.enter Lexicon.regexMode).Takes ["/"] token inside)
      (read : inside.regexDisjunction.Gives () behind) (closes : behind.sees "/" = true)
      (closed : behind.leave.Takes ["/"] slash after)
      (shown : after.scanner.source.slice? ⟨inside.scanner.previousEnd, behind.start⟩ = some text)
      (named : after.scanner.matching? ident = some name)
      (touches : name.span.start = after.scanner.previousEnd) :
      AsksInRegex (.on .regexLiteral parser) after [ident]
  /-- A bar between alternatives. -/
  | bar {parser middle : Parser} (first : parser.regexAlternative.Gives () middle) :
      AsksInRegex (.on .regexDisjunction parser) middle ["|"]
  /-- A condition on a place. -/
  | condition {parser : Parser} :
      AsksInRegex (.on .regexTerm parser) parser ["^", "$", Lexicon.regexInlineFlags]
  /-- What is looked for around a place. -/
  | lookaround {parser : Parser} (plain : parser.Lacks ["^", "$", Lexicon.regexInlineFlags]) :
      AsksInRegex (.on .regexTerm parser) parser ["(?=", "(?!", "(?<=", "(?<!"]
  /-- The end of that. -/
  | lookaroundEnd {parser inside behind : Parser} {token : Token}
      (plain : parser.Lacks ["^", "$", Lexicon.regexInlineFlags])
      (opens : parser.Takes ["(?=", "(?!", "(?<=", "(?<!"] token inside)
      (read : inside.regexDisjunction.Gives () behind) :
      AsksInRegex (.on .regexTerm parser) behind [")"]
  /-- How often an atom may occur. -/
  | quantifier {parser after : Parser} (plain : parser.Lacks ["^", "$", Lexicon.regexInlineFlags])
      (opensNot : parser.Lacks ["(?=", "(?!", "(?<=", "(?<!"])
      (first : parser.regexAtom.Gives () after) :
      AsksInRegex (.on .regexTerm parser) after ["*", "+", "?", Lexicon.regexRepeat]
  /-- Whether it is to occur as seldom as possible. -/
  | reluctant {parser after last : Parser} {token : Token}
      (plain : parser.Lacks ["^", "$", Lexicon.regexInlineFlags])
      (opensNot : parser.Lacks ["(?=", "(?!", "(?<=", "(?<!"])
      (first : parser.regexAtom.Gives () after)
      (counted : after.Takes ["*", "+", "?", Lexicon.regexRepeat] token last) :
      AsksInRegex (.on .regexTerm parser) last ["?"]
  /-- An atom of one token. -/
  | atom {parser : Parser} : AsksInRegex (.on .regexAtom parser) parser
      [Lexicon.regexChar, Lexicon.regexEscape, ".", "-", "]"]
  /-- A group as an atom. -/
  | group {parser : Parser}
      (plain : parser.Lacks [Lexicon.regexChar, Lexicon.regexEscape, ".", "-", "]"])
      (opensNot : ¬ parser.seesAny ["[", "[^"] = true) :
      AsksInRegex (.on .regexAtom parser) parser ["(", Lexicon.regexGroupOpen]
  /-- The end of a group. -/
  | groupEnd {parser inside behind : Parser} {token : Token}
      (plain : parser.Lacks [Lexicon.regexChar, Lexicon.regexEscape, ".", "-", "]"])
      (opensNot : ¬ parser.seesAny ["[", "[^"] = true)
      (opens : parser.Takes ["(", Lexicon.regexGroupOpen] token inside)
      (read : inside.regexDisjunction.Gives () behind) :
      AsksInRegex (.on .regexAtom parser) behind [")"]
  /-- The bracket that opens a class. -/
  | cls {parser : Parser} : AsksInRegex (.on .regexClass parser) parser ["[", "[^"]
  /-- A closing bracket that is the first member. -/
  | bracket {parser inside : Parser} {token : Token} (opens : parser.Takes ["[", "[^"] token inside) :
      AsksInRegex (.on .regexClass parser) inside ["]"]
  /-- The bracket that closes a class. -/
  | clsEnd {parser inside behind : Parser} {token : Token}
      (opens : parser.Takes ["[", "[^"] token inside) (plain : inside.Lacks ["]"])
      (read : inside.regexMembers.Gives () behind) :
      AsksInRegex (.on .regexClass parser) behind ["]"]
  /-- The bracket that closes a class of which another one is the first member. -/
  | clsEndBehind {parser inside further behind : Parser} {token bracket : Token}
      (opens : parser.Takes ["[", "[^"] token inside) (first : inside.Takes ["]"] bracket further)
      (read : further.regexMembers.Gives () behind) :
      AsksInRegex (.on .regexClass parser) behind ["]"]

/-- Where tokens are asked for in a range. -/
inductive AsksInRange (parser : Parser) : Parser → List String → Prop
  /-- The brace that opens it. -/
  | opening : AsksInRange parser parser ["\x7b"]
  /-- The lower bound. -/
  | lowest {inside : Parser} {token : Token} (opens : parser.Takes ["\x7b"] token inside) :
      AsksInRange parser inside [number]
  /-- The comma behind the lower bound. -/
  | comma {inside after : Parser} {token lowest : Token} (opens : parser.Takes ["\x7b"] token inside)
      (lower : inside.Takes [number] lowest after) : AsksInRange parser after [","]
  /-- The upper bound behind the comma. -/
  | highest {inside after last : Parser} {token lowest comma : Token}
      (opens : parser.Takes ["\x7b"] token inside) (lower : inside.Takes [number] lowest after)
      (separates : after.Takes [","] comma last) : AsksInRange parser last [number]
  /-- The brace that closes a range without a comma. -/
  | closing {inside after : Parser} {token lowest : Token}
      (opens : parser.Takes ["\x7b"] token inside) (lower : inside.Takes [number] lowest after)
      (only : after.Lacks [","]) : AsksInRange parser after ["\x7d"]
  /-- The brace that closes a range with a comma. -/
  | closingBehind {inside after last behind : Parser} {token lowest comma : Token}
      {bound : Option UInt64} (opens : parser.Takes ["\x7b"] token inside)
      (lower : inside.Takes [number] lowest after) (separates : after.Takes [","] comma last)
      (upper : last.upperBound.Gives bound behind) : AsksInRange parser behind ["\x7d"]

/-- Where tokens are asked for in a component. -/
inductive AsksInComponent : Call → Parser → List String → Prop
  /-- The mark that makes code a predicate. -/
  | mark {parser middle : Parser} {code : CodeSegment} (opens : parser.sees "\x7b" = true)
      (first : parser.codeSegment.Gives code middle) :
      AsksInComponent (.on .codeInFront parser) middle ["?"]
  /-- The name of a label. -/
  | label {parser middle : Parser} {code : Option CodeSegment × Option CodeSegment}
      (front : parser.codeInFront.Gives code middle) (labelled : middle.Foresees [ident, "="] true) :
      AsksInComponent (.on .component parser) middle [ident]
  /-- The sign behind the name of a label. -/
  | equals {parser middle after : Parser} {code : Option CodeSegment × Option CodeSegment}
      {name : Token} (front : parser.codeInFront.Gives code middle)
      (labelled : middle.Foresees [ident, "="] true) (named : middle.Takes [ident] name after) :
      AsksInComponent (.on .component parser) after ["="]
  /-- A name as a terminal. -/
  | name {parser : Parser} : AsksInComponent (.on .terminal parser) parser [ident]
  /-- A number as a terminal. -/
  | number {parser : Parser} (unnamed : parser.Lacks [ident]) :
      AsksInComponent (.on .terminal parser) parser [number]
  /-- A string as a terminal. -/
  | string {parser : Parser} (unnamed : parser.Lacks [ident]) (uncounted : parser.Lacks [number]) :
      AsksInComponent (.on .terminal parser) parser [string]
  /-- A sign as a suffix. -/
  | sign {parser : Parser} : AsksInComponent (.on .suffixes parser) parser ["*", "+", "?"]
  /-- A range as a suffix. -/
  | range {parser state : Parser} {rules : List String} (plain : parser.Lacks ["*", "+", "?"])
      (opens : parser.Foresees ["\x7b", number] true) (asks : AsksInRange parser state rules) :
      AsksInComponent (.on .suffixes parser) state rules

/-- Where tokens are asked for between branches. -/
inductive AsksInTree : Call → Parser → List String → Prop
  /-- The keyword. -/
  | keyword {parser : Parser} :
      AsksInTree (.on .wholeGrammar parser) parser [Lexicon.keyword]
  /-- The name of the grammar. -/
  | name {parser middle : Parser} {keyword : Token}
      (started : parser.Takes [Lexicon.keyword] keyword middle) :
      AsksInTree (.on .wholeGrammar parser) middle [ident]
  /-- The brace in front of the productions. -/
  | opening {parser middle inside : Parser} {keyword name : Token}
      (started : parser.Takes [Lexicon.keyword] keyword middle)
      (named : middle.Takes [ident] name inside) :
      AsksInTree (.on .wholeGrammar parser) inside ["\x7b"]
  /-- The brace behind the productions. -/
  | closing {parser middle inside after last : Parser} {keyword name opening : Token}
      {found : List Production} (started : parser.Takes [Lexicon.keyword] keyword middle)
      (named : middle.Takes [ident] name inside) (opens : inside.Takes ["\x7b"] opening after)
      (read : after.productions.Gives found last) (closes : last.sees "\x7d" = true) :
      AsksInTree (.on .wholeGrammar parser) last ["\x7d"]
  /-- The name of a production. -/
  | production {parser : Parser} : AsksInTree (.on .production parser) parser [ident]
  /-- The colon behind the name. -/
  | colon {parser middle : Parser} {name : Token} (named : parser.Takes [ident] name middle) :
      AsksInTree (.on .production parser) middle [":"]
  /-- The semicolon behind the branches. -/
  | semicolon {parser middle inside after : Parser} {name colon : Token} {found : List Branch}
      (named : parser.Takes [ident] name middle) (starts : middle.Takes [":"] colon inside)
      (read : inside.branches.Gives found after) :
      AsksInTree (.on .production parser) after [";"]
  /-- A bar between branches. -/
  | bar {parser middle : Parser} {branch : Branch} (first : parser.branch.Gives branch middle) :
      AsksInTree (.on .branches parser) middle ["|"]
  /-- The sign of a negation. -/
  | tilde {parser : Parser} : AsksInTree (.on .element parser) parser ["~"]
  /-- A group. -/
  | group {parser : Parser} (plain : parser.Lacks ["~"]) :
      AsksInTree (.on .element parser) parser ["(", "(?=", "(?!"]
  /-- The end of a group. -/
  | groupEnd {parser inside behind : Parser} {token : Token} {found : List Branch}
      (plain : parser.Lacks ["~"]) (opens : parser.Takes ["(", "(?=", "(?!"] token inside)
      (read : inside.branches.Gives found behind) : AsksInTree (.on .element parser) behind [")"]

/-- A call asks for a token of some rules where the parser is in some state. -/
inductive Asks (call : Call) (state : Parser) (rules : List String) : Prop
  | code (asked : call.AsksInCode state rules)
  | regex (asked : call.AsksInRegex state rules)
  | component (asked : call.AsksInComponent state rules)
  | tree (asked : call.AsksInTree state rules)

/-- A call takes the current token set for what it is. -/
inductive Passes : Call → Parser → Prop
  /-- Code, unless it is at its end. -/
  | code {parser : Parser} {depth : Nat}
      (goesOn : parser.sees "\x7b" = true ∨ ¬ (parser.sees "\x7d" && depth = 0) = true) :
      Passes (.inCode depth parser) parser
  /-- A member of a class. -/
  | member {parser : Parser} (goesOn : ¬ parser.sees "]" = true)
      (inText : ¬ parser.scanner.atEnd = true) (opensNot : ¬ parser.seesAny ["[", "[^"] = true) :
      Passes (.on .regexMembers parser) parser

/-- A call moves the scanner on from some state: there is one token to be consumed of those that it
asks for, or it passes over what is there. -/
def MovesOn (call : Call) (state : Parser) : Prop :=
  (∃ rules token, call.Asks state rules ∧ state.scanner.alternatives rules = [token]) ∨
    call.Passes state ∧ state.scanner.current.isSome = true

/-! ## Failing to move on -/

section Failing

open GrammarLang.Grammar.Parser (takes_iff lacks_iff gives_consume gives_consumeAny
  gives_seesSequence gives_textBetween)

variable {call : Call} {state after : Parser} {rules : List String} {error : ParseError}

/-- Where an attempt fails, so does consuming. -/
theorem failure?_consumeAny (h : state.tryConsumeAny rules = .failed error after) :
    (state.consumeAny rules).failure? = some (error, after) := by
  rw [Parser.consumeAny_eq, h]
  rfl

theorem AsksInCode.fails (h : call.AsksInCode state rules)
    (hfails : state.tryConsumeAny rules = .failed error after) :
    call.failure? = some (error, after) := by
  have hconsume := failure?_consumeAny hfails
  cases h with
  | @opening parser =>
    show parser.codeSegment.failure? = _
    rw [Parser.codeSegment, Reply.failure?_since]
    exact Reply.failure?_bind hconsume
  | @closing parser _ _ _ opens read =>
    show parser.codeSegment.failure? = _
    rw [Parser.codeSegment, Reply.failure?_since]
    exact (gives_consume.2 opens).failure?_bind (read.failure?_bind
      (Reply.failure?_bind ((Reply.failure?_across ..).trans hconsume)))

theorem AsksInRegex.fails (h : call.AsksInRegex state rules)
    (hfails : state.tryConsumeAny rules = .failed error after) :
    call.failure? = some (error, after) := by
  have hconsume := failure?_consumeAny hfails
  -- Each case says how the function comes to the state; there it asks, and hands the failure on.
  cases h with
  | @opening parser =>
    show parser.regexLiteral.failure? = _
    rw [Parser.regexLiteral, Reply.failure?_since]
    exact Reply.failure?_bind hconsume
  | @closing parser _ _ _ opens read closes =>
    show parser.regexLiteral.failure? = _
    rw [Parser.regexLiteral, Reply.failure?_since]
    refine (gives_consume.2 opens).failure?_bind (read.failure?_bind ?_)
    rw [if_pos closes]
    exact Reply.failure?_bind ((Reply.failure?_across ..).trans hconsume)
  | @flags parser _ _ _ _ _ name _ opens read closes closed shown named touches =>
    have hflags : state.regexFlags.failure? = some (error, after) := by
      simp only [Parser.regexFlags, named, if_pos touches, Reply.failure?_since, Reply.failure?_map]
      exact hconsume
    show parser.regexLiteral.failure? = _
    rw [Parser.regexLiteral, Reply.failure?_since]
    refine (gives_consume.2 opens).failure?_bind (read.failure?_bind ?_)
    rw [if_pos closes]
    exact (Reply.gives_across.2 (gives_consume.2 closed)).failure?_bind
      ((gives_textBetween.2 ⟨shown, rfl⟩).failure?_bind (Reply.failure?_bind hflags))
  | @bar parser _ first =>
    show parser.regexDisjunction.failure? = _
    rw [Parser.regexDisjunction, Reply.failure?_since]
    refine first.failure?_bind ?_
    simp only [Parser.tryConsume, hfails]
    rfl
  | condition =>
    show state.regexTerm.failure? = _
    rw [Parser.regexTerm]
    simp only [hfails]
    rfl
  | lookaround plain =>
    show state.regexTerm.failure? = _
    rw [Parser.regexTerm]
    simp only [lacks_iff.1 plain, hfails]
    rfl
  | @lookaroundEnd parser _ _ _ plain opens read =>
    obtain ⟨used, htaken⟩ := takes_iff.1 opens
    show parser.regexTerm.failure? = _
    rw [Parser.regexTerm]
    simp only [lacks_iff.1 plain, htaken, Reply.failure?_since]
    exact read.failure?_bind ((Reply.failure?_map _ _).trans hconsume)
  | @quantifier parser _ plain opensNot first =>
    show parser.regexTerm.failure? = _
    rw [Parser.regexTerm]
    simp only [lacks_iff.1 plain, lacks_iff.1 opensNot]
    refine first.failure?_bind ?_
    simp only [Parser.regexQuantifier, hfails]
    rfl
  | @reluctant parser _ _ _ plain opensNot first counted =>
    obtain ⟨used, htaken⟩ := takes_iff.1 counted
    show parser.regexTerm.failure? = _
    rw [Parser.regexTerm]
    simp only [lacks_iff.1 plain, lacks_iff.1 opensNot]
    refine first.failure?_bind ?_
    simp only [Parser.regexQuantifier, Parser.tryConsume, htaken, hfails]
    rfl
  | atom =>
    show state.regexAtom.failure? = _
    rw [Parser.regexAtom]
    simp only [hfails]
    rfl
  | group plain opensNot =>
    show state.regexAtom.failure? = _
    rw [Parser.regexAtom]
    simp only [lacks_iff.1 plain, if_neg opensNot, hfails]
    rfl
  | @groupEnd parser _ _ _ plain opensNot opens read =>
    obtain ⟨used, htaken⟩ := takes_iff.1 opens
    show parser.regexAtom.failure? = _
    rw [Parser.regexAtom]
    simp only [lacks_iff.1 plain, if_neg opensNot, htaken, Reply.failure?_since]
    exact read.failure?_bind ((Reply.failure?_map _ _).trans hconsume)
  | cls =>
    show state.regexClass.failure? = _
    rw [Parser.regexClass, Reply.failure?_since]
    exact Reply.failure?_bind hconsume
  | @bracket parser _ _ opens =>
    show parser.regexClass.failure? = _
    rw [Parser.regexClass, Reply.failure?_since]
    refine (gives_consumeAny.2 opens).failure?_bind ?_
    simp only [Parser.tryConsume, hfails]
    rfl
  | @clsEnd parser _ _ _ opens plain read =>
    show parser.regexClass.failure? = _
    rw [Parser.regexClass, Reply.failure?_since]
    refine (gives_consumeAny.2 opens).failure?_bind ?_
    simp only [Parser.tryConsume, lacks_iff.1 plain]
    exact read.failure?_bind ((Reply.failure?_map _ _).trans hconsume)
  | @clsEndBehind parser _ _ _ _ _ opens first read =>
    obtain ⟨used, htaken⟩ := takes_iff.1 first
    show parser.regexClass.failure? = _
    rw [Parser.regexClass, Reply.failure?_since]
    refine (gives_consumeAny.2 opens).failure?_bind ?_
    simp only [Parser.tryConsume, htaken]
    exact (Reply.gives_since.2 read).failure?_bind ((Reply.failure?_map _ _).trans hconsume)

theorem AsksInRange.fails {parser : Parser} (h : AsksInRange parser state rules)
    (hfails : state.tryConsumeAny rules = .failed error after) :
    parser.rangeSuffix.failure? = some (error, after) := by
  have hconsume := failure?_consumeAny hfails
  rw [Parser.rangeSuffix, Reply.failure?_since]
  cases h with
  | opening => exact Reply.failure?_bind hconsume
  | lowest opens => exact (gives_consume.2 opens).failure?_bind (Reply.failure?_bind hconsume)
  | comma opens lower =>
    refine (gives_consume.2 opens).failure?_bind ((gives_consume.2 lower).failure?_bind
      (Reply.failure?_bind ?_))
    simp only [Parser.tryConsume, hfails]
    rfl
  | highest opens lower separates =>
    obtain ⟨used, htaken⟩ := takes_iff.1 separates
    -- The upper bound is read in an attempt of its own, behind the comma.
    refine (gives_consume.2 opens).failure?_bind ((gives_consume.2 lower).failure?_bind
      (Reply.failure?_bind ?_))
    simp only [Parser.tryConsume, htaken, Reply.failure?_since, Parser.upperBound, hfails]
    rfl
  | closing opens lower only =>
    refine (gives_consume.2 opens).failure?_bind ((gives_consume.2 lower).failure?_bind ?_)
    simp only [Parser.tryConsume, lacks_iff.1 only]
    exact (Reply.gives_done.2 ⟨rfl, rfl⟩).failure?_bind (Reply.failure?_bind hconsume)
  | closingBehind opens lower separates upper =>
    obtain ⟨used, htaken⟩ := takes_iff.1 separates
    refine (gives_consume.2 opens).failure?_bind ((gives_consume.2 lower).failure?_bind ?_)
    simp only [Parser.tryConsume, htaken]
    exact (Reply.gives_since.2 upper).failure?_bind (Reply.failure?_bind hconsume)

/-- Where a label is foreseen and its name or its sign cannot be read, no label is read. -/
theorem failure?_labelName {failure : ParseError × Parser} (labelled : state.Foresees [ident, "="] true)
    (h : ((state.consume ident).bind fun name after _ =>
      (after.consume "=").map fun _ => some name.text).failure? = some failure) :
    state.labelName.failure? = some failure := by
  rw [Parser.labelName, Reply.failure?_since]
  refine (gives_seesSequence.2 ⟨labelled, rfl⟩).failure?_bind ?_
  rw [if_pos rfl, Reply.failure?_since]
  exact h

/-- Where a range is foreseen and cannot be read, no suffixes are read. -/
theorem failure?_suffixes {failure : ParseError × Parser} (plain : state.Lacks ["*", "+", "?"])
    (opens : state.Foresees ["\x7b", number] true) (h : state.rangeSuffix.failure? = some failure) :
    state.suffixes.failure? = some failure := by
  rw [Parser.suffixes]
  simp only [lacks_iff.1 plain, Reply.failure?_since]
  refine (gives_seesSequence.2 ⟨opens, rfl⟩).failure?_bind ?_
  rw [if_pos rfl, Reply.failure?_since]
  exact Reply.failure?_bind h

theorem AsksInComponent.fails (h : call.AsksInComponent state rules)
    (hfails : state.tryConsumeAny rules = .failed error after) :
    call.failure? = some (error, after) := by
  have hconsume := failure?_consumeAny hfails
  cases h with
  | @mark parser _ _ opens first =>
    show parser.codeInFront.failure? = _
    rw [Parser.codeInFront, if_pos opens, Reply.failure?_since]
    refine first.failure?_bind ?_
    simp only [Parser.tryConsume, hfails]
    rfl
  | @label parser _ _ front labelled =>
    have hlabel := failure?_labelName labelled (Reply.failure?_bind hconsume)
    show parser.component.failure? = _
    rw [Parser.component, Reply.failure?_since]
    exact front.failure?_bind (Reply.failure?_bind hlabel)
  | @equals parser _ _ _ _ front labelled named =>
    have hlabel := failure?_labelName labelled
      ((gives_consume.2 named).failure?_bind ((Reply.failure?_map _ _).trans hconsume))
    show parser.component.failure? = _
    rw [Parser.component, Reply.failure?_since]
    exact front.failure?_bind (Reply.failure?_bind hlabel)
  | name =>
    show state.terminal.failure? = _
    rw [Parser.terminal]
    simp only [Parser.tryConsume, hfails]
    rfl
  | number unnamed =>
    show state.terminal.failure? = _
    rw [Parser.terminal]
    simp only [Parser.tryConsume, lacks_iff.1 unnamed, hfails]
    rfl
  | string unnamed uncounted =>
    show state.terminal.failure? = _
    rw [Parser.terminal]
    simp only [Parser.tryConsume, lacks_iff.1 unnamed, lacks_iff.1 uncounted, hfails]
    rfl
  | sign =>
    show state.suffixes.failure? = _
    rw [Parser.suffixes]
    simp only [hfails]
    rfl
  | range plain opens asks => exact failure?_suffixes plain opens (asks.fails hfails)

theorem AsksInTree.fails (h : call.AsksInTree state rules)
    (hfails : state.tryConsumeAny rules = .failed error after) :
    call.failure? = some (error, after) := by
  have hconsume := failure?_consumeAny hfails
  cases h with
  | keyword =>
    show state.wholeGrammar.failure? = _
    rw [Parser.wholeGrammar, Reply.failure?_since]
    exact Reply.failure?_bind hconsume
  | @name parser _ _ started =>
    show parser.wholeGrammar.failure? = _
    rw [Parser.wholeGrammar, Reply.failure?_since]
    exact (gives_consume.2 started).failure?_bind (Reply.failure?_bind hconsume)
  | @opening parser _ _ _ _ started named =>
    show parser.wholeGrammar.failure? = _
    rw [Parser.wholeGrammar, Reply.failure?_since]
    exact (gives_consume.2 started).failure?_bind ((gives_consume.2 named).failure?_bind
      (Reply.failure?_bind hconsume))
  | @closing parser _ _ _ _ _ _ _ _ started named opens read closes =>
    show parser.wholeGrammar.failure? = _
    rw [Parser.wholeGrammar, Reply.failure?_since]
    refine (gives_consume.2 started).failure?_bind ((gives_consume.2 named).failure?_bind
      ((gives_consume.2 opens).failure?_bind (read.failure?_bind ?_)))
    rw [if_pos closes]
    exact Reply.failure?_bind hconsume
  | production =>
    show state.production.failure? = _
    rw [Parser.production, Reply.failure?_since]
    exact Reply.failure?_bind hconsume
  | @colon parser _ _ named =>
    show parser.production.failure? = _
    rw [Parser.production, Reply.failure?_since]
    exact (gives_consume.2 named).failure?_bind (Reply.failure?_bind hconsume)
  | @semicolon parser _ _ _ _ _ _ named starts read =>
    show parser.production.failure? = _
    rw [Parser.production, Reply.failure?_since]
    exact (gives_consume.2 named).failure?_bind ((gives_consume.2 starts).failure?_bind
      (read.failure?_bind (Reply.failure?_bind hconsume)))
  | @bar parser _ _ first =>
    show parser.branches.failure? = _
    rw [Parser.branches, Reply.failure?_since]
    refine first.failure?_bind ?_
    simp only [Parser.tryConsume, hfails]
    rfl
  | tilde =>
    show state.element.failure? = _
    rw [Parser.element]
    simp only [Parser.tryConsume, hfails]
    rfl
  | group plain =>
    show state.element.failure? = _
    rw [Parser.element]
    simp only [Parser.tryConsume, lacks_iff.1 plain, hfails]
    rfl
  | @groupEnd parser _ _ _ _ plain opens read =>
    obtain ⟨used, htaken⟩ := takes_iff.1 opens
    show parser.element.failure? = _
    rw [Parser.element]
    simp only [Parser.tryConsume, lacks_iff.1 plain, htaken, Reply.failure?_since]
    exact read.failure?_bind ((Reply.failure?_map _ _).trans hconsume)

/-- Where an attempt to consume a token fails, the call fails in the same way. -/
theorem Asks.fails (h : call.Asks state rules)
    (hfails : state.tryConsumeAny rules = .failed error after) :
    call.failure? = some (error, after) := by
  cases h with
  | code asked => exact asked.fails hfails
  | regex asked => exact asked.fails hfails
  | component asked => exact asked.fails hfails
  | tree asked => exact asked.fails hfails

/-- Where the next token set cannot be scanned, skipping the current one fails. -/
theorem failure?_skip {names : List String} {failure : Error} {scanner : Scanner}
    (hcurrent : state.scanner.current.isSome = true)
    (hnext : state.scanner.next = .failed failure scanner) :
    (state.skip names).failure? = some (.lexical failure, state.withScanner scanner) := by
  rw [Parser.skip]
  split
  · rename_i hnone
    simp [hnone] at hcurrent
  · split
    all_goals
      rename_i heq
      cases hnext.symm.trans heq
    rfl

theorem Passes.fails {failure : Error} {scanner : Scanner} (h : call.Passes state)
    (hcurrent : state.scanner.current.isSome = true)
    (hnext : state.scanner.next = .failed failure scanner) :
    call.failure? = some (.lexical failure, state.withScanner scanner) := by
  cases h with
  | @code _ depth goesOn =>
    show (Parser.codeTokens depth state).failure? = _
    rw [Parser.codeTokens]
    split
    · exact (Reply.failure?_since ..).trans (Reply.failure?_bind (failure?_skip hcurrent hnext))
    · rename_i hopens
      rw [if_neg (goesOn.resolve_left hopens), Reply.failure?_since]
      exact Reply.failure?_bind (failure?_skip hcurrent hnext)
  | member goesOn inText opensNot =>
    show state.regexMembers.failure? = _
    rw [Parser.regexMembers, if_neg goesOn, if_neg inText, if_neg opensNot, Reply.failure?_since]
    exact Reply.failure?_bind (failure?_skip hcurrent hnext)

/-- **Where the scanner fails to move on, the call fails** in the same way: there is nothing else that
it could go on with. -/
theorem MovesOn.fails {failure : Error} {scanner : Scanner} (h : call.MovesOn state)
    (hnext : state.scanner.next = .failed failure scanner) :
    call.failure? = some (.lexical failure, state.withScanner scanner) := by
  rcases h with ⟨rules, token, hasks, halternatives⟩ | ⟨hpasses, hcurrent⟩
  · exact hasks.fails (Parser.tryConsumeAny_of_next_failed halternatives hnext)
  · exact hpasses.fails hcurrent hnext

end Failing

/-! ## From the start of a call -/

section Spending

open GrammarLang.Grammar.Parser (spends_enter spends_leave codeTokens_costs codeSegment_costs
  regexDisjunction_costs regexAlternative_costs regexAtom_costs regexMembers_costs upperBound_costs
  codeInFront_costs branch_costs branches_costs productions_costs)

variable {call : Call} {state : Parser} {rules : List String}

/-- Some consumptions lie between the start of the call and the state. -/
def Comes (call : Call) (state : Parser) : Prop := ∃ count, call.parser.Spends count state

namespace Comes

variable {middle after : Parser} {α : Type} {least : Nat}

theorem here : call.Comes call.parser := ⟨0, .refl⟩

theorem takes {token : Token} (h : call.Comes middle) (htakes : middle.Takes rules token after) :
    call.Comes after := by
  obtain ⟨count, hspends⟩ := h
  exact ⟨_, hspends.trans htakes.spends⟩

theorem gives {reply : Reply α least middle} {value : α} (h : call.Comes middle) (hcosts : reply.Costs)
    (hgives : reply.Gives value after) : call.Comes after := by
  obtain ⟨count, hspends⟩ := h
  obtain ⟨more, hmore, -⟩ := hcosts.of_gives hgives
  exact ⟨_, hspends.trans hmore⟩

theorem enter (h : call.Comes middle) (mode : String) : call.Comes (middle.enter mode) := by
  obtain ⟨count, hspends⟩ := h
  exact ⟨_, hspends.trans (spends_enter middle mode)⟩

theorem leave (h : call.Comes middle) : call.Comes middle.leave := by
  obtain ⟨count, hspends⟩ := h
  exact ⟨_, hspends.trans (spends_leave middle)⟩

end Comes

theorem AsksInCode.comes (h : call.AsksInCode state rules) : call.Comes state := by
  cases h with
  | opening => exact Comes.here.enter _
  | closing opens read =>
    exact (((Comes.here.enter _).takes opens).gives (codeTokens_costs ..) read).leave

theorem AsksInRegex.comes (h : call.AsksInRegex state rules) : call.Comes state := by
  cases h with
  | opening => exact Comes.here.enter _
  | closing opens read =>
    exact (((Comes.here.enter _).takes opens).gives (regexDisjunction_costs _) read).leave
  | flags opens read _ closed =>
    exact (((Comes.here.enter _).takes opens).gives (regexDisjunction_costs _) read).leave.takes closed
  | bar first => exact Comes.here.gives (regexAlternative_costs _) first
  | lookaroundEnd _ opens read =>
    exact (Comes.here.takes opens).gives (regexDisjunction_costs _) read
  | quantifier _ _ first => exact Comes.here.gives (regexAtom_costs _) first
  | reluctant _ _ first counted =>
    exact (Comes.here.gives (regexAtom_costs _) first).takes counted
  | groupEnd _ _ opens read => exact (Comes.here.takes opens).gives (regexDisjunction_costs _) read
  | bracket opens => exact Comes.here.takes opens
  | clsEnd opens _ read => exact (Comes.here.takes opens).gives (regexMembers_costs _) read
  | clsEndBehind opens first read =>
    exact ((Comes.here.takes opens).takes first).gives (regexMembers_costs _) read
  -- Whatever else is asked for is asked for where the call starts.
  | _ => exact Comes.here

theorem AsksInRange.comes {parser : Parser} (hcall : call.Comes parser)
    (h : AsksInRange parser state rules) : call.Comes state := by
  cases h with
  | opening => exact hcall
  | lowest opens => exact hcall.takes opens
  | comma opens lower => exact (hcall.takes opens).takes lower
  | highest opens lower separates => exact ((hcall.takes opens).takes lower).takes separates
  | closing opens lower => exact (hcall.takes opens).takes lower
  | closingBehind opens lower separates upper =>
    exact (((hcall.takes opens).takes lower).takes separates).gives upperBound_costs upper

theorem AsksInComponent.comes (h : call.AsksInComponent state rules) : call.Comes state := by
  cases h with
  | mark _ first => exact Comes.here.gives codeSegment_costs first
  | label front => exact Comes.here.gives codeInFront_costs front
  | equals front _ named => exact (Comes.here.gives codeInFront_costs front).takes named
  | range _ _ asks => exact asks.comes Comes.here
  | _ => exact Comes.here

theorem AsksInTree.comes (h : call.AsksInTree state rules) : call.Comes state := by
  cases h with
  | name started => exact Comes.here.takes started
  | opening started named => exact (Comes.here.takes started).takes named
  | closing started named opens read =>
    exact (((Comes.here.takes started).takes named).takes opens).gives (productions_costs _) read
  | colon named => exact Comes.here.takes named
  | semicolon named starts read =>
    exact ((Comes.here.takes named).takes starts).gives (branches_costs _) read
  | bar first => exact Comes.here.gives (branch_costs _) first
  | groupEnd _ opens read => exact (Comes.here.takes opens).gives (branches_costs _) read
  | _ => exact Comes.here

/-- A call moves the scanner on where it comes to behind some consumptions. -/
theorem MovesOn.comes (h : call.MovesOn state) : call.Comes state := by
  rcases h with ⟨rules, token, asked, -⟩ | ⟨hpasses, -⟩
  · cases asked with
    | code asked => exact asked.comes
    | regex asked => exact asked.comes
    | component asked => exact asked.comes
    | tree asked => exact asked.comes
  · cases hpasses <;> exact Comes.here

end Spending

end Call

end GrammarLang.Grammar

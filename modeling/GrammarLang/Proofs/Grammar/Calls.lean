import GrammarLang.Proofs.Grammar.Spending
import Mathlib.Logic.Relation

/-! # Calls between the functions of the parser

The parser's functions call one another, and a loop of the parser is a function that calls itself for
what comes behind one round of it. **`Call.Makes`** says which call makes which other ones, from where
in the text. Functions that neither loop nor recur, nor call any that does, are left out.

Between a call and one that it makes something is consumed, or the inner function is of a lower rank
than the outer one: **`Call.Makes.descends`**. So something is consumed between two calls of the same
function, however many other calls lie between: **`Call.spends_of_transGen`**. Where an inner call
fails, the outer one fails in the same way: **`Call.Makes.fails`**. -/

namespace GrammarLang.Grammar

open GrammarLang.Scan GrammarLang.Text Relation

open Lexicon (ident number string)

/-! ## Failures -/

namespace Reply

variable {α β : Type} {least more fewer : Nat} {parser earlier : Parser}
  {failure : ParseError × Parser}

/-- The failure of a reply and the state it leaves behind, unless it is a success. -/
def failure? : Reply α least parser → Option (ParseError × Parser)
  | .ok .. => none
  | .failed error after => some (error, after)

/-- A reply is a success, or it fails. -/
theorem gives_or_fails (reply : Reply α least parser) :
    (∃ value after, reply.Gives value after) ∨ ∃ failure, reply.failure? = some failure := by
  cases reply with
  | ok value after used => exact .inl ⟨value, after, used, rfl⟩
  | failed error after => exact .inr ⟨(error, after), rfl⟩

@[simp] theorem failure?_map (reply : Reply α least parser) (change : α → β) :
    (reply.map change).failure? = reply.failure? := by
  cases reply <;> rfl

@[simp] theorem failure?_since (reply : Reply α least parser)
    (h : parser.remaining + fewer ≤ earlier.remaining + least) :
    (reply.since h).failure? = reply.failure? := by
  cases reply <;> rfl

@[simp] theorem failure?_across {other : Parser} (reply : Reply α least other)
    (h : other.remaining = parser.remaining) :
    (reply.across h).failure? = reply.failure? := by
  cases reply <;> rfl

variable {reply : Reply α least parser}
  {next : (value : α) → (after : Parser) → after.remaining + least ≤ parser.remaining →
    Reply β more after}

/-- A failure of the first of two steps is one of both. -/
theorem failure?_bind (h : reply.failure? = some failure) :
    (reply.bind next).failure? = some failure := by
  cases reply with
  | ok value after used => contradiction
  | failed error after => exact h

/-- Behind a first step that succeeds, a failure of the second one is one of both. -/
theorem Gives.failure?_bind {value : α} {after : Parser} (hgives : reply.Gives value after)
    (h : (next value after hgives.remaining_le).failure? = some failure) :
    (reply.bind next).failure? = some failure := by
  obtain ⟨used, rfl⟩ := hgives
  cases hnext : next value after used with
  | ok result last _ =>
    rw [hnext] at h
    contradiction
  | failed error last =>
    rw [hnext] at h
    simp only [Reply.bind, hnext]
    exact h

end Reply

/-- Skipping a token set succeeds where one is skipped. -/
theorem Parser.Skips.gives_skip {parser after : Parser} {set : TokenSet} {names : List String}
    (h : parser.Skips set after) : (parser.skip names).Gives () after :=
  Parser.gives_skip.2 ⟨set, h⟩

/-! ## Calls -/

/-- The functions of the parser that loop or recur, and those that call them. -/
inductive Routine
  | wholeGrammar | productions | production | branches | branch | components | component | element
  | terminal | suffixes | codeInFront | codeBehind | codeSegment | codeTokens | regexLiteral
  | regexDisjunction | regexAlternative | regexTerm | regexAtom | regexClass | regexMembers
  deriving DecidableEq

/-- A rank that gets lower from a call to one that it makes before anything is consumed. -/
def Routine.rank : Routine → Nat
  | wholeGrammar => 0
  | productions => 1
  | production => 0
  | branches => 6
  | branch => 5
  | components => 4
  | component => 3
  | element => 2
  | terminal => 1
  | suffixes => 0
  | codeInFront => 1
  | codeBehind => 1
  | codeSegment => 0
  | codeTokens => 0
  | regexLiteral => 0
  | regexDisjunction => 4
  | regexAlternative => 3
  | regexTerm => 2
  | regexAtom => 1
  | regexClass => 0
  | regexMembers => 1

/-- A call of one of these functions. -/
structure Call where
  /-- The function. -/
  routine : Routine
  /-- In code, how many more braces were opened than closed before. -/
  depth : Nat
  /-- The state of the parser. -/
  parser : Parser

namespace Call

/-- The call of a function that does not count braces. -/
def on (routine : Routine) (parser : Parser) : Call := ⟨routine, 0, parser⟩

/-- The call that reads code, from behind as many open braces as `depth` says. -/
def inCode (depth : Nat) (parser : Parser) : Call := ⟨.codeTokens, depth, parser⟩

/-- How a call fails, if it does, and the state it leaves behind. -/
def failure? (call : Call) : Option (ParseError × Parser) :=
  match call.routine with
  | .wholeGrammar => call.parser.wholeGrammar.failure?
  | .productions => call.parser.productions.failure?
  | .production => call.parser.production.failure?
  | .branches => call.parser.branches.failure?
  | .branch => call.parser.branch.failure?
  | .components => call.parser.components.failure?
  | .component => call.parser.component.failure?
  | .element => call.parser.element.failure?
  | .terminal => call.parser.terminal.failure?
  | .suffixes => call.parser.suffixes.failure?
  | .codeInFront => call.parser.codeInFront.failure?
  | .codeBehind => call.parser.codeBehind.failure?
  | .codeSegment => call.parser.codeSegment.failure?
  | .codeTokens => (Parser.codeTokens call.depth call.parser).failure?
  | .regexLiteral => call.parser.regexLiteral.failure?
  | .regexDisjunction => call.parser.regexDisjunction.failure?
  | .regexAlternative => call.parser.regexAlternative.failure?
  | .regexTerm => call.parser.regexTerm.failure?
  | .regexAtom => call.parser.regexAtom.failure?
  | .regexClass => call.parser.regexClass.failure?
  | .regexMembers => call.parser.regexMembers.failure?

/-- The calls that are made in code. -/
inductive MakesInCode : Call → Call → Prop
  /-- Code is read from its opening brace on. -/
  | segment {parser inside : Parser} {token : Token}
      (opens : (parser.enter Lexicon.codeMode).Takes ["\x7b"] token inside) :
      MakesInCode (.on .codeSegment parser) (.inCode 0 inside)
  /-- It goes on behind an opening brace. -/
  | opened {parser after : Parser} {set : TokenSet} {depth : Nat}
      (opens : parser.sees "\x7b" = true) (skips : parser.Skips set after) :
      MakesInCode (.inCode depth parser) (.inCode (depth + 1) after)
  /-- It goes on behind any other token set that does not close it. -/
  | passed {parser after : Parser} {set : TokenSet} {depth : Nat}
      (plain : ¬ parser.sees "\x7b" = true) (goesOn : ¬ (parser.sees "\x7d" && depth = 0) = true)
      (skips : parser.Skips set after) :
      MakesInCode (.inCode depth parser)
        (.inCode (if parser.sees "\x7d" then depth - 1 else depth) after)

/-- The calls that are made in a regular expression. -/
inductive MakesInRegex : Call → Call → Prop
  /-- Behind the opening slash. -/
  | literal {parser inside : Parser} {token : Token}
      (opens : (parser.enter Lexicon.regexMode).Takes ["/"] token inside) :
      MakesInRegex (.on .regexLiteral parser) (.on .regexDisjunction inside)
  /-- The first alternative. -/
  | alternative {parser : Parser} :
      MakesInRegex (.on .regexDisjunction parser) (.on .regexAlternative parser)
  /-- The other alternatives, behind a bar. -/
  | alternatives {parser middle after : Parser} {token : Token}
      (first : parser.regexAlternative.Gives () middle) (bar : middle.Takes ["|"] token after) :
      MakesInRegex (.on .regexDisjunction parser) (.on .regexDisjunction after)
  /-- The first term. -/
  | term {parser : Parser}
      (goesOn : ¬ (parser.scanner.atEnd || parser.seesAny ["|", ")", "/"]) = true) :
      MakesInRegex (.on .regexAlternative parser) (.on .regexTerm parser)
  /-- The other terms. -/
  | terms {parser after : Parser}
      (goesOn : ¬ (parser.scanner.atEnd || parser.seesAny ["|", ")", "/"]) = true)
      (first : parser.regexTerm.Gives () after) :
      MakesInRegex (.on .regexAlternative parser) (.on .regexAlternative after)
  /-- What is looked for around a place. -/
  | lookaround {parser inside : Parser} {token : Token}
      (plain : parser.Lacks ["^", "$", Lexicon.regexInlineFlags])
      (opens : parser.Takes ["(?=", "(?!", "(?<=", "(?<!"] token inside) :
      MakesInRegex (.on .regexTerm parser) (.on .regexDisjunction inside)
  /-- An atom. -/
  | atom {parser : Parser} (plain : parser.Lacks ["^", "$", Lexicon.regexInlineFlags])
      (opensNot : parser.Lacks ["(?=", "(?!", "(?<=", "(?<!"]) :
      MakesInRegex (.on .regexTerm parser) (.on .regexAtom parser)
  /-- A class as an atom. -/
  | classAtom {parser : Parser}
      (plain : parser.Lacks [Lexicon.regexChar, Lexicon.regexEscape, ".", "-", "]"])
      (opens : parser.seesAny ["[", "[^"] = true) :
      MakesInRegex (.on .regexAtom parser) (.on .regexClass parser)
  /-- A group as an atom. -/
  | group {parser inside : Parser} {token : Token}
      (plain : parser.Lacks [Lexicon.regexChar, Lexicon.regexEscape, ".", "-", "]"])
      (opensNot : ¬ parser.seesAny ["[", "[^"] = true)
      (opens : parser.Takes ["(", Lexicon.regexGroupOpen] token inside) :
      MakesInRegex (.on .regexAtom parser) (.on .regexDisjunction inside)
  /-- The members of a class. -/
  | members {parser inside : Parser} {token : Token} (opens : parser.Takes ["[", "[^"] token inside)
      (plain : inside.Lacks ["]"]) :
      MakesInRegex (.on .regexClass parser) (.on .regexMembers inside)
  /-- The members of a class behind a bracket that is one of them. -/
  | membersBehind {parser inside after : Parser} {token bracket : Token}
      (opens : parser.Takes ["[", "[^"] token inside) (first : inside.Takes ["]"] bracket after) :
      MakesInRegex (.on .regexClass parser) (.on .regexMembers after)
  /-- A class as a member. -/
  | innerClass {parser : Parser} (goesOn : ¬ parser.sees "]" = true)
      (inText : ¬ parser.scanner.atEnd = true) (opens : parser.seesAny ["[", "[^"] = true) :
      MakesInRegex (.on .regexMembers parser) (.on .regexClass parser)
  /-- The other members behind a class. -/
  | behindClass {parser after : Parser} (goesOn : ¬ parser.sees "]" = true)
      (inText : ¬ parser.scanner.atEnd = true) (opens : parser.seesAny ["[", "[^"] = true)
      (first : parser.regexClass.Gives () after) :
      MakesInRegex (.on .regexMembers parser) (.on .regexMembers after)
  /-- The other members behind any other token set. -/
  | behindMember {parser after : Parser} {set : TokenSet} (goesOn : ¬ parser.sees "]" = true)
      (inText : ¬ parser.scanner.atEnd = true) (opensNot : ¬ parser.seesAny ["[", "[^"] = true)
      (first : parser.Skips set after) :
      MakesInRegex (.on .regexMembers parser) (.on .regexMembers after)

/-- The calls that are made in a component. -/
inductive MakesInComponent : Call → Call → Prop
  /-- Code in front of the element. -/
  | codeInFront {parser : Parser} :
      MakesInComponent (.on .component parser) (.on .codeInFront parser)
  /-- The element. -/
  | element {parser middle after : Parser} {code : Option CodeSegment × Option CodeSegment}
      {label : Option String} (front : parser.codeInFront.Gives code middle)
      (named : middle.labelName.Gives label after) :
      MakesInComponent (.on .component parser) (.on .element after)
  /-- Suffixes of the element. -/
  | suffixes {parser middle inside after : Parser} {code : Option CodeSegment × Option CodeSegment}
      {label : Option String} {element : Element} (front : parser.codeInFront.Gives code middle)
      (named : middle.labelName.Gives label inside) (read : inside.element.Gives element after) :
      MakesInComponent (.on .component parser) (.on .suffixes after)
  /-- Code behind the element. -/
  | codeBehind {parser middle inside after last : Parser}
      {code : Option CodeSegment × Option CodeSegment} {label : Option String} {element : Element}
      {suffixes : List Suffix} (front : parser.codeInFront.Gives code middle)
      (named : middle.labelName.Gives label inside) (read : inside.element.Gives element after)
      (counted : after.suffixes.Gives suffixes last) :
      MakesInComponent (.on .component parser) (.on .codeBehind last)
  /-- The first of two pieces of code in front. -/
  | firstCode {parser : Parser} (opens : parser.sees "\x7b" = true) :
      MakesInComponent (.on .codeInFront parser) (.on .codeSegment parser)
  /-- The second of two pieces of code in front. -/
  | secondCode {parser middle after : Parser} {token : Token} {code : CodeSegment}
      (opens : parser.sees "\x7b" = true) (first : parser.codeSegment.Gives code middle)
      (mark : middle.Takes ["?"] token after) (opensAgain : after.sees "\x7b" = true) :
      MakesInComponent (.on .codeInFront parser) (.on .codeSegment after)
  /-- The piece of code behind. -/
  | lastCode {parser : Parser} (opens : parser.sees "\x7b" = true) :
      MakesInComponent (.on .codeBehind parser) (.on .codeSegment parser)
  /-- The other suffixes behind a sign. -/
  | behindSign {parser after : Parser} {token : Token}
      (sign : parser.Takes ["*", "+", "?"] token after) :
      MakesInComponent (.on .suffixes parser) (.on .suffixes after)
  /-- The other suffixes behind a range. -/
  | behindRange {parser after : Parser} {range : Suffix} (plain : parser.Lacks ["*", "+", "?"])
      (opens : parser.Foresees ["\x7b", number] true) (first : parser.rangeSuffix.Gives range after) :
      MakesInComponent (.on .suffixes parser) (.on .suffixes after)
  /-- A terminal that is a regular expression. -/
  | regex {parser : Parser} (unnamed : parser.Lacks [ident]) (uncounted : parser.Lacks [number])
      (unquoted : parser.Lacks [string]) (opens : parser.sees "/" = true) :
      MakesInComponent (.on .terminal parser) (.on .regexLiteral parser)

/-- The calls that are made between branches. -/
inductive MakesInTree : Call → Call → Prop
  /-- The productions of a grammar. -/
  | productions {parser middle inside after : Parser} {keyword name opening : Token}
      (started : parser.Takes [Lexicon.keyword] keyword middle)
      (named : middle.Takes [ident] name inside) (opens : inside.Takes ["\x7b"] opening after) :
      MakesInTree (.on .wholeGrammar parser) (.on .productions after)
  /-- The first production. -/
  | production {parser : Parser} (goesOn : parser.sees ident = true) :
      MakesInTree (.on .productions parser) (.on .production parser)
  /-- The other productions. -/
  | moreProductions {parser after : Parser} {production : Production}
      (goesOn : parser.sees ident = true) (first : parser.production.Gives production after) :
      MakesInTree (.on .productions parser) (.on .productions after)
  /-- The branches of a production. -/
  | branches {parser middle inside : Parser} {name colon : Token}
      (named : parser.Takes [ident] name middle) (starts : middle.Takes [":"] colon inside) :
      MakesInTree (.on .production parser) (.on .branches inside)
  /-- The first branch. -/
  | branch {parser : Parser} : MakesInTree (.on .branches parser) (.on .branch parser)
  /-- The other branches, behind a bar. -/
  | moreBranches {parser middle after : Parser} {token : Token} {branch : Branch}
      (first : parser.branch.Gives branch middle) (bar : middle.Takes ["|"] token after) :
      MakesInTree (.on .branches parser) (.on .branches after)
  /-- The components of a branch. -/
  | components {parser : Parser} : MakesInTree (.on .branch parser) (.on .components parser)
  /-- The first component. -/
  | component {parser : Parser} (goesOn : ¬ parser.seesAny Parser.branchEnds = true) :
      MakesInTree (.on .components parser) (.on .component parser)
  /-- The other components. -/
  | moreComponents {parser after : Parser} {component : Component}
      (goesOn : ¬ parser.seesAny Parser.branchEnds = true)
      (first : parser.component.Gives component after) :
      MakesInTree (.on .components parser) (.on .components after)
  /-- The element that is negated. -/
  | negated {parser after : Parser} {token : Token} (sign : parser.Takes ["~"] token after) :
      MakesInTree (.on .element parser) (.on .element after)
  /-- The branches of a group. -/
  | grouped {parser inside : Parser} {token : Token} (plain : parser.Lacks ["~"])
      (opens : parser.Takes ["(", "(?=", "(?!"] token inside) :
      MakesInTree (.on .element parser) (.on .branches inside)
  /-- A terminal. -/
  | terminal {parser : Parser} (plain : parser.Lacks ["~"])
      (opensNot : parser.Lacks ["(", "(?=", "(?!"]) :
      MakesInTree (.on .element parser) (.on .terminal parser)

/-- Whether a call makes another one. -/
inductive Makes (outer inner : Call) : Prop
  | code (made : outer.MakesInCode inner)
  | regex (made : outer.MakesInRegex inner)
  | component (made : outer.MakesInComponent inner)
  | tree (made : outer.MakesInTree inner)

/-! ## Consumptions between calls -/

/-- From a call to another one something is consumed, or the rank gets lower. -/
def Descends (outer inner : Call) : Prop :=
  ∃ count, outer.parser.Spends count inner.parser ∧
    (count = 0 → inner.routine.rank < outer.routine.rank)

namespace Descends

variable {outer inner inmost : Call} {count : Nat}

theorem of_pos (h : outer.parser.Spends count inner.parser) (hpos : 0 < count) :
    outer.Descends inner := ⟨count, h, fun hzero => absurd hzero (Nat.pos_iff_ne_zero.1 hpos)⟩

theorem of_rank {routine lower : Routine} {parser after : Parser} (h : parser.Spends count after)
    (hrank : lower.rank < routine.rank) : (on routine parser).Descends (on lower after) :=
  ⟨count, h, fun _ => hrank⟩

theorem trans (h : outer.Descends inner) (h' : inner.Descends inmost) : outer.Descends inmost := by
  obtain ⟨count, hspends, hrank⟩ := h
  obtain ⟨more, hmore, hrank'⟩ := h'
  refine ⟨count + more, hspends.trans hmore, fun hzero => ?_⟩
  have := hrank (by omega)
  have := hrank' (by omega)
  omega

end Descends

/-! Each call descends to those that it makes. -/

section Descending

open GrammarLang.Grammar.Parser (spends_enter production_costs branch_costs component_costs
  element_costs suffixes_costs codeInFront_costs labelName_costs codeSegment_costs rangeSuffix_costs
  regexAlternative_costs regexTerm_costs regexClass_costs)

variable {outer inner : Call}

theorem MakesInCode.descends (h : outer.MakesInCode inner) : outer.Descends inner := by
  cases h with
  | segment opens => exact .of_pos ((spends_enter _ _).trans opens.spends) (by decide)
  | opened _ skips => exact .of_pos skips.spends (by decide)
  | passed _ _ skips => exact .of_pos skips.spends (by decide)

theorem MakesInRegex.descends (h : outer.MakesInRegex inner) : outer.Descends inner := by
  cases h with
  -- Calls from the same place go to a function of lower rank.
  | literal opens => exact .of_pos ((spends_enter _ _).trans opens.spends) (by decide)
  | alternative => exact .of_rank .refl (by decide)
  | alternatives first bar =>
    obtain ⟨count, hspends, -⟩ := (regexAlternative_costs _).of_gives first
    exact .of_pos (hspends.trans bar.spends) (Nat.succ_pos _)
  | term => exact .of_rank .refl (by decide)
  | terms _ first =>
    obtain ⟨count, hspends, hpos⟩ := (regexTerm_costs _).of_gives first
    exact .of_pos hspends (hpos (by decide))
  | lookaround _ opens => exact .of_pos opens.spends (by decide)
  | atom => exact .of_rank .refl (by decide)
  | classAtom => exact .of_rank .refl (by decide)
  | group _ _ opens => exact .of_pos opens.spends (by decide)
  | members opens => exact .of_pos opens.spends (by decide)
  | membersBehind opens first => exact .of_pos (opens.spends.trans first.spends) (by decide)
  | innerClass => exact .of_rank .refl (by decide)
  | behindClass _ _ _ first =>
    obtain ⟨count, hspends, hpos⟩ := (regexClass_costs _).of_gives first
    exact .of_pos hspends (hpos (by decide))
  | behindMember _ _ _ first => exact .of_pos first.spends (by decide)

theorem MakesInComponent.descends (h : outer.MakesInComponent inner) : outer.Descends inner := by
  cases h with
  | codeInFront => exact .of_rank .refl (by decide)
  | element front named =>
    -- Code and label may be missing, so nothing need be consumed in front of the element.
    obtain ⟨count, hfront, -⟩ := codeInFront_costs.of_gives front
    obtain ⟨more, hnamed, -⟩ := labelName_costs.of_gives named
    exact .of_rank (hfront.trans hnamed) (by decide)
  | suffixes front named read =>
    obtain ⟨count, hfront, -⟩ := codeInFront_costs.of_gives front
    obtain ⟨more, hnamed, -⟩ := labelName_costs.of_gives named
    obtain ⟨further, hread, -⟩ := (element_costs _).of_gives read
    exact .of_rank ((hfront.trans hnamed).trans hread) (by decide)
  | codeBehind front named read counted =>
    obtain ⟨count, hfront, -⟩ := codeInFront_costs.of_gives front
    obtain ⟨more, hnamed, -⟩ := labelName_costs.of_gives named
    obtain ⟨further, hread, -⟩ := (element_costs _).of_gives read
    obtain ⟨again, hcounted, -⟩ := (suffixes_costs _).of_gives counted
    exact .of_rank (((hfront.trans hnamed).trans hread).trans hcounted) (by decide)
  | firstCode => exact .of_rank .refl (by decide)
  | secondCode _ first mark =>
    obtain ⟨count, hspends, -⟩ := codeSegment_costs.of_gives first
    exact .of_pos (hspends.trans mark.spends) (Nat.succ_pos _)
  | lastCode => exact .of_rank .refl (by decide)
  | behindSign sign => exact .of_pos sign.spends (by decide)
  | behindRange _ _ first =>
    obtain ⟨count, hspends, hpos⟩ := rangeSuffix_costs.of_gives first
    exact .of_pos hspends (hpos (by decide))
  | regex => exact .of_rank .refl (by decide)

theorem MakesInTree.descends (h : outer.MakesInTree inner) : outer.Descends inner := by
  cases h with
  | productions started named opens =>
    exact .of_pos ((started.spends.trans named.spends).trans opens.spends) (by decide)
  | production => exact .of_rank .refl (by decide)
  | moreProductions _ first =>
    obtain ⟨count, hspends, hpos⟩ := production_costs.of_gives first
    exact .of_pos hspends (hpos (by decide))
  | branches named starts => exact .of_pos (named.spends.trans starts.spends) (by decide)
  | branch => exact .of_rank .refl (by decide)
  | moreBranches first bar =>
    obtain ⟨count, hspends, -⟩ := (branch_costs _).of_gives first
    exact .of_pos (hspends.trans bar.spends) (Nat.succ_pos _)
  | components => exact .of_rank .refl (by decide)
  | component => exact .of_rank .refl (by decide)
  | moreComponents _ first =>
    obtain ⟨count, hspends, hpos⟩ := (component_costs _).of_gives first
    exact .of_pos hspends (hpos (by decide))
  | negated sign => exact .of_pos sign.spends (by decide)
  | grouped _ opens => exact .of_pos opens.spends (by decide)
  | terminal => exact .of_rank .refl (by decide)

/-- From a call to one that it makes something is consumed, or the rank gets lower. -/
theorem Makes.descends (h : outer.Makes inner) : outer.Descends inner := by
  cases h with
  | code made => exact made.descends
  | regex made => exact made.descends
  | component made => exact made.descends
  | tree made => exact made.descends

theorem descends_of_transGen (h : TransGen Makes outer inner) : outer.Descends inner := by
  induction h with
  | single made => exact made.descends
  | tail _ made ih => exact ih.trans made.descends

/-- **Between two calls of the same function something is consumed**, however many other calls lie
between. -/
theorem spends_of_transGen (h : TransGen Makes outer inner) (hsame : inner.routine = outer.routine) :
    ∃ count, 0 < count ∧ outer.parser.Spends count inner.parser := by
  obtain ⟨count, hspends, hrank⟩ := descends_of_transGen h
  -- With nothing consumed, the rank of the function would be lower than itself.
  refine ⟨count, Nat.pos_of_ne_zero fun hzero => ?_, hspends⟩
  have hlower := hrank hzero
  rw [hsame] at hlower
  exact absurd hlower (Nat.lt_irrefl _)

/-- A call is reached behind some consumptions. -/
theorem spends_of_reflTransGen (h : ReflTransGen Makes outer inner) :
    ∃ count, outer.parser.Spends count inner.parser := by
  rcases Relation.reflTransGen_iff_eq_or_transGen.1 h with rfl | hmakes
  · exact ⟨0, .refl⟩
  · obtain ⟨count, hspends, -⟩ := descends_of_transGen hmakes
    exact ⟨count, hspends⟩

end Descending

/-! ## Failures of calls -/

section Failing

open GrammarLang.Grammar.Parser (takes_iff lacks_iff gives_consume gives_consumeAny
  gives_seesSequence)

variable {outer inner : Call} {failure : ParseError × Parser}

theorem MakesInCode.fails (h : outer.MakesInCode inner) (hfails : inner.failure? = some failure) :
    outer.failure? = some failure := by
  cases h with
  | @segment parser _ _ opens =>
    show parser.codeSegment.failure? = _
    rw [Parser.codeSegment, Reply.failure?_since]
    exact (gives_consume.2 opens).failure?_bind (Reply.failure?_bind hfails)
  | @opened parser _ set depth opens skips =>
    show (Parser.codeTokens depth parser).failure? = _
    rw [Parser.codeTokens, if_pos opens, Reply.failure?_since]
    exact skips.gives_skip.failure?_bind hfails
  | @passed parser _ set depth plain goesOn skips =>
    show (Parser.codeTokens depth parser).failure? = _
    rw [Parser.codeTokens, if_neg plain, if_neg goesOn, Reply.failure?_since]
    exact skips.gives_skip.failure?_bind hfails

theorem MakesInRegex.fails (h : outer.MakesInRegex inner) (hfails : inner.failure? = some failure) :
    outer.failure? = some failure := by
  cases h with
  | @literal parser _ _ opens =>
    show parser.regexLiteral.failure? = _
    rw [Parser.regexLiteral, Reply.failure?_since]
    exact (gives_consume.2 opens).failure?_bind (Reply.failure?_bind hfails)
  | @alternative parser =>
    show parser.regexDisjunction.failure? = _
    rw [Parser.regexDisjunction, Reply.failure?_since]
    exact Reply.failure?_bind hfails
  | @alternatives parser _ _ _ first bar =>
    obtain ⟨used, htaken⟩ := takes_iff.1 bar
    show parser.regexDisjunction.failure? = _
    rw [Parser.regexDisjunction, Reply.failure?_since]
    refine first.failure?_bind ?_
    simp only [Parser.tryConsume, htaken, Reply.failure?_since]
    exact hfails
  | @term parser goesOn =>
    show parser.regexAlternative.failure? = _
    rw [Parser.regexAlternative, if_neg goesOn, Reply.failure?_since]
    exact Reply.failure?_bind hfails
  | @terms parser _ goesOn first =>
    show parser.regexAlternative.failure? = _
    rw [Parser.regexAlternative, if_neg goesOn, Reply.failure?_since]
    exact first.failure?_bind hfails
  | @lookaround parser _ _ plain opens =>
    obtain ⟨used, htaken⟩ := takes_iff.1 opens
    show parser.regexTerm.failure? = _
    rw [Parser.regexTerm]
    simp only [lacks_iff.1 plain, htaken, Reply.failure?_since]
    exact Reply.failure?_bind hfails
  | @atom parser plain opensNot =>
    show parser.regexTerm.failure? = _
    rw [Parser.regexTerm]
    simp only [lacks_iff.1 plain, lacks_iff.1 opensNot]
    exact Reply.failure?_bind hfails
  | @classAtom parser plain opens =>
    show parser.regexAtom.failure? = _
    rw [Parser.regexAtom]
    simp only [lacks_iff.1 plain, if_pos opens]
    exact hfails
  | @group parser _ _ plain opensNot opens =>
    obtain ⟨used, htaken⟩ := takes_iff.1 opens
    show parser.regexAtom.failure? = _
    rw [Parser.regexAtom]
    simp only [lacks_iff.1 plain, if_neg opensNot, htaken, Reply.failure?_since]
    exact Reply.failure?_bind hfails
  | @members parser _ _ opens plain =>
    show parser.regexClass.failure? = _
    rw [Parser.regexClass, Reply.failure?_since]
    refine (gives_consumeAny.2 opens).failure?_bind ?_
    simp only [Parser.tryConsume, lacks_iff.1 plain]
    exact Reply.failure?_bind hfails
  | @membersBehind parser _ _ _ _ opens first =>
    obtain ⟨used, htaken⟩ := takes_iff.1 first
    show parser.regexClass.failure? = _
    rw [Parser.regexClass, Reply.failure?_since]
    refine (gives_consumeAny.2 opens).failure?_bind ?_
    simp only [Parser.tryConsume, htaken]
    exact Reply.failure?_bind ((Reply.failure?_since _ _).trans hfails)
  | @innerClass parser goesOn inText opens =>
    show parser.regexMembers.failure? = _
    rw [Parser.regexMembers, if_neg goesOn, if_neg inText, if_pos opens, Reply.failure?_since]
    exact Reply.failure?_bind hfails
  | @behindClass parser _ goesOn inText opens first =>
    show parser.regexMembers.failure? = _
    rw [Parser.regexMembers, if_neg goesOn, if_neg inText, if_pos opens, Reply.failure?_since]
    exact first.failure?_bind hfails
  | @behindMember parser _ set goesOn inText opensNot first =>
    show parser.regexMembers.failure? = _
    rw [Parser.regexMembers, if_neg goesOn, if_neg inText, if_neg opensNot, Reply.failure?_since]
    exact first.gives_skip.failure?_bind hfails

theorem MakesInComponent.fails (h : outer.MakesInComponent inner)
    (hfails : inner.failure? = some failure) : outer.failure? = some failure := by
  cases h with
  | @codeInFront parser =>
    show parser.component.failure? = _
    rw [Parser.component, Reply.failure?_since]
    exact Reply.failure?_bind hfails
  | @element parser _ _ _ _ front named =>
    show parser.component.failure? = _
    rw [Parser.component, Reply.failure?_since]
    exact front.failure?_bind (named.failure?_bind (Reply.failure?_bind hfails))
  | @suffixes parser _ _ _ _ _ _ front named read =>
    show parser.component.failure? = _
    rw [Parser.component, Reply.failure?_since]
    exact front.failure?_bind (named.failure?_bind (read.failure?_bind (Reply.failure?_bind hfails)))
  | @codeBehind parser _ _ _ _ _ _ _ _ front named read counted =>
    show parser.component.failure? = _
    rw [Parser.component, Reply.failure?_since]
    exact front.failure?_bind (named.failure?_bind (read.failure?_bind
      (counted.failure?_bind (Reply.failure?_bind hfails))))
  | @firstCode parser opens =>
    show parser.codeInFront.failure? = _
    rw [Parser.codeInFront, if_pos opens, Reply.failure?_since]
    exact Reply.failure?_bind hfails
  | @secondCode parser _ _ _ _ opens first mark opensAgain =>
    obtain ⟨used, htaken⟩ := takes_iff.1 mark
    show parser.codeInFront.failure? = _
    rw [Parser.codeInFront, if_pos opens, Reply.failure?_since]
    refine first.failure?_bind ?_
    simp only [Parser.tryConsume, htaken, if_pos opensAgain, Reply.failure?_since,
      Reply.failure?_map]
    exact hfails
  | @lastCode parser opens =>
    show parser.codeBehind.failure? = _
    rw [Parser.codeBehind, if_pos opens, Reply.failure?_since, Reply.failure?_map]
    exact hfails
  | @behindSign parser _ _ sign =>
    obtain ⟨used, htaken⟩ := takes_iff.1 sign
    show parser.suffixes.failure? = _
    rw [Parser.suffixes]
    simp only [htaken, Reply.failure?_since, Reply.failure?_map]
    exact hfails
  | @behindRange parser _ _ plain opens first =>
    show parser.suffixes.failure? = _
    rw [Parser.suffixes]
    simp only [lacks_iff.1 plain, Reply.failure?_since]
    refine (gives_seesSequence.2 ⟨opens, rfl⟩).failure?_bind ?_
    rw [if_pos rfl, Reply.failure?_since]
    exact first.failure?_bind ((Reply.failure?_map _ _).trans hfails)
  | @regex parser unnamed uncounted unquoted opens =>
    show parser.terminal.failure? = _
    rw [Parser.terminal]
    simp only [Parser.tryConsume, lacks_iff.1 unnamed, lacks_iff.1 uncounted, lacks_iff.1 unquoted,
      if_pos opens]
    exact Reply.failure?_bind hfails

theorem MakesInTree.fails (h : outer.MakesInTree inner) (hfails : inner.failure? = some failure) :
    outer.failure? = some failure := by
  cases h with
  | @productions parser _ _ _ _ _ _ started named opens =>
    show parser.wholeGrammar.failure? = _
    rw [Parser.wholeGrammar, Reply.failure?_since]
    exact (gives_consume.2 started).failure?_bind ((gives_consume.2 named).failure?_bind
      ((gives_consume.2 opens).failure?_bind (Reply.failure?_bind hfails)))
  | @production parser goesOn =>
    show parser.productions.failure? = _
    rw [Parser.productions, if_pos goesOn, Reply.failure?_since]
    exact Reply.failure?_bind hfails
  | @moreProductions parser _ _ goesOn first =>
    show parser.productions.failure? = _
    rw [Parser.productions, if_pos goesOn, Reply.failure?_since]
    exact first.failure?_bind ((Reply.failure?_map _ _).trans hfails)
  | @branches parser _ _ _ _ named starts =>
    show parser.production.failure? = _
    rw [Parser.production, Reply.failure?_since]
    exact (gives_consume.2 named).failure?_bind ((gives_consume.2 starts).failure?_bind
      (Reply.failure?_bind hfails))
  | @branch parser =>
    show parser.branches.failure? = _
    rw [Parser.branches, Reply.failure?_since]
    exact Reply.failure?_bind hfails
  | @moreBranches parser _ _ _ _ first bar =>
    obtain ⟨used, htaken⟩ := takes_iff.1 bar
    show parser.branches.failure? = _
    rw [Parser.branches, Reply.failure?_since]
    refine first.failure?_bind ?_
    simp only [Parser.tryConsume, htaken, Reply.failure?_since, Reply.failure?_map]
    exact hfails
  | @components parser =>
    show parser.branch.failure? = _
    rw [Parser.branch, Reply.failure?_since]
    exact Reply.failure?_bind hfails
  | @component parser goesOn =>
    show parser.components.failure? = _
    rw [Parser.components, if_neg goesOn, Reply.failure?_since]
    exact Reply.failure?_bind hfails
  | @moreComponents parser _ _ goesOn first =>
    show parser.components.failure? = _
    rw [Parser.components, if_neg goesOn, Reply.failure?_since]
    exact first.failure?_bind ((Reply.failure?_map _ _).trans hfails)
  | @negated parser _ _ sign =>
    obtain ⟨used, htaken⟩ := takes_iff.1 sign
    show parser.element.failure? = _
    rw [Parser.element]
    simp only [Parser.tryConsume, htaken, Reply.failure?_since, Reply.failure?_map]
    exact hfails
  | @grouped parser _ _ plain opens =>
    obtain ⟨used, htaken⟩ := takes_iff.1 opens
    show parser.element.failure? = _
    rw [Parser.element]
    simp only [Parser.tryConsume, lacks_iff.1 plain, htaken, Reply.failure?_since]
    exact Reply.failure?_bind hfails
  | @terminal parser plain opensNot =>
    show parser.element.failure? = _
    rw [Parser.element]
    simp only [Parser.tryConsume, lacks_iff.1 plain, lacks_iff.1 opensNot, Reply.failure?_map]
    exact hfails

/-- **Where an inner call fails, the outer one fails** in the same way. -/
theorem Makes.fails (h : outer.Makes inner) (hfails : inner.failure? = some failure) :
    outer.failure? = some failure := by
  cases h with
  | code made => exact made.fails hfails
  | regex made => exact made.fails hfails
  | component made => exact made.fails hfails
  | tree made => exact made.fails hfails

end Failing

end Call

end GrammarLang.Grammar

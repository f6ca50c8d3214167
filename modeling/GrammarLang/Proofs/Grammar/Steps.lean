import GrammarLang.Proofs.Grammar.Gives

/-! # The steps of each parsing function

For each function of the parser a lemma says when it gives a value: what it consumes and which
functions it calls, in order, as one equivalence. All that is proved of the parser is read off these
lemmas. -/

namespace GrammarLang.Grammar.Parser

open GrammarLang.Scan GrammarLang.Text

open Lexicon (ident number string)

variable {parser after : Parser}

/-! ## Code -/

theorem codeTokens_gives {depth : Nat} {value : Unit} :
    (codeTokens depth parser).Gives value after ↔
      parser.sees "\x7b" = true ∧ (∃ set middle, parser.Skips set middle ∧
        (codeTokens (depth + 1) middle).Gives value after) ∨
      parser.sees "\x7b" = false ∧ parser.sees "\x7d" = true ∧
        (depth = 0 ∧ parser = after ∨
        ∃ outer, depth = outer + 1 ∧ ∃ set middle, parser.Skips set middle ∧
          (codeTokens outer middle).Gives value after) ∨
      parser.sees "\x7b" = false ∧ parser.sees "\x7d" = false ∧
        ∃ set middle, parser.Skips set middle ∧ (codeTokens depth middle).Gives value after := by
  rw [codeTokens]
  by_cases hopens : parser.sees "\x7b" = true
  · simp [hopens, exists_comm (α := TokenSet)]
  · by_cases hcloses : parser.sees "\x7d" = true
    · cases depth <;> simp [hopens, hcloses, exists_comm (α := TokenSet)]
    · simp [hopens, hcloses, exists_comm (α := TokenSet)]

theorem codeSegment_gives {code : CodeSegment} :
    (codeSegment parser).Gives code after ↔
      ∃ opening inside, (parser.enter Lexicon.codeMode).Takes ["\x7b"] opening inside ∧
      ∃ behind, (codeTokens 0 inside).Gives () behind ∧
      ∃ closing, behind.leave.Takes ["\x7d"] closing after ∧
        after.scanner.source.slice? ⟨inside.scanner.previousEnd, behind.start⟩ = some code.text ∧
        code.span = after.spanFrom parser.start := by
  simp only [codeSegment, Reply.gives_since, Reply.gives_across, Reply.gives_bind, Reply.gives_map,
    gives_textBetween, gives_consume, exists_prop]
  constructor
  · rintro ⟨opening, inside, hopening, _, behind, htokens, closing, _, hclosing, text,
      ⟨htext, rfl⟩, rfl⟩
    exact ⟨opening, inside, hopening, behind, htokens, closing, hclosing, htext, rfl⟩
  · rintro ⟨opening, inside, hopening, behind, htokens, closing, hclosing, htext, hspan⟩
    exact ⟨opening, inside, hopening, (), behind, htokens, closing, after, hclosing, code.text,
      ⟨htext, rfl⟩, by rw [← hspan]⟩

/-! ## Regular expressions -/

theorem regexClass_gives {value : Unit} :
    (regexClass parser).Gives value after ↔
      ∃ opening inside, parser.Takes ["[", "[^"] opening inside ∧
        ((∃ bracket further, inside.Takes ["]"] bracket further ∧
          ∃ behind, (regexMembers further).Gives () behind ∧
          ∃ closing, behind.Takes ["]"] closing after) ∨
        inside.Lacks ["]"] ∧ ∃ behind, (regexMembers inside).Gives () behind ∧
          ∃ closing, behind.Takes ["]"] closing after) := by
  rw [regexClass]
  simp only [Reply.gives_since, Reply.gives_bind, gives_consumeAny, exists_prop]
  refine exists_congr fun opening => exists_congr fun inside => and_congr_right fun _ => ?_
  refine gives_attempt_absent.trans ?_
  simp

theorem regexMembers_gives {value : Unit} :
    (regexMembers parser).Gives value after ↔
      parser.sees "]" = true ∧ parser = after ∨
      parser.sees "]" = false ∧ parser.scanner.atEnd = false ∧
        (parser.seesAny ["[", "[^"] = true ∧ (∃ middle, (regexClass parser).Gives () middle ∧
          (regexMembers middle).Gives value after) ∨
        parser.seesAny ["[", "[^"] = false ∧ ∃ set middle, parser.Skips set middle ∧
          (regexMembers middle).Gives value after) := by
  rw [regexMembers]
  by_cases hcloses : parser.sees "]" = true
  · simp [hcloses]
  · by_cases hend : parser.scanner.atEnd = true
    · simp [hcloses, hend]
    · by_cases hopens : parser.seesAny ["[", "[^"] = true
      · simp [hcloses, hend, hopens]
      · simp [hcloses, hend, hopens, exists_comm (α := TokenSet)]

theorem regexQuantifier_gives {value : Unit} :
    (regexQuantifier parser).Gives value after ↔
      (∃ sign middle, parser.Takes ["*", "+", "?", Lexicon.regexRepeat] sign middle ∧
        ((∃ mark, middle.Takes ["?"] mark after) ∨ middle.Lacks ["?"] ∧ middle = after)) ∨
      parser.Lacks ["*", "+", "?", Lexicon.regexRepeat] ∧ parser = after := by
  rw [regexQuantifier]
  refine gives_attempt_absent.trans (or_congr ?_ ?_)
  · constructor
    · rintro ⟨sign, middle, hsign, h⟩
      exact ⟨sign, middle, hsign, by simpa using gives_attempt_absent.1 h⟩
    · rintro ⟨sign, middle, hsign, h⟩
      exact ⟨sign, middle, hsign, gives_attempt_absent.2 (by simpa using h)⟩
  · simp

theorem regexDisjunction_gives {value : Unit} :
    (regexDisjunction parser).Gives value after ↔
      ∃ middle, (regexAlternative parser).Gives () middle ∧
        ((∃ bar behind, middle.Takes ["|"] bar behind ∧
          (regexDisjunction behind).Gives value after) ∨
        middle.Lacks ["|"] ∧ middle = after) := by
  rw [regexDisjunction]
  simp only [Reply.gives_since, Reply.gives_bind, exists_prop, Reply.exists_unit]
  refine exists_congr fun middle => and_congr_right fun _ => ?_
  refine gives_attempt_absent.trans ?_
  simp

theorem regexAlternative_gives {value : Unit} :
    (regexAlternative parser).Gives value after ↔
      (parser.scanner.atEnd || parser.seesAny ["|", ")", "/"]) = true ∧ parser = after ∨
      (parser.scanner.atEnd || parser.seesAny ["|", ")", "/"]) = false ∧
        ∃ middle, (regexTerm parser).Gives () middle ∧
          (regexAlternative middle).Gives value after := by
  rw [regexAlternative]
  by_cases hends : (parser.scanner.atEnd || parser.seesAny ["|", ")", "/"]) = true
  · simp only [if_pos hends]
    simp [hends]
  · simp only [if_neg hends]
    simp [hends]

/-- A part between an opening, with the disjunction inside it, and a closing parenthesis. -/
def TakesGroup (parser : Parser) (openings : List String) (after : Parser) : Prop :=
  ∃ opening inside, parser.Takes openings opening inside ∧
  ∃ behind, (regexDisjunction inside).Gives () behind ∧ ∃ closing, behind.Takes [")"] closing after

theorem regexTerm_gives {value : Unit} :
    (regexTerm parser).Gives value after ↔
      (∃ sign, parser.Takes ["^", "$", Lexicon.regexInlineFlags] sign after) ∨
      parser.Lacks ["^", "$", Lexicon.regexInlineFlags] ∧
        (parser.TakesGroup ["(?=", "(?!", "(?<=", "(?<!"] after ∨
        parser.Lacks ["(?=", "(?!", "(?<=", "(?<!"] ∧
          ∃ middle, (regexAtom parser).Gives () middle ∧
            (regexQuantifier middle).Gives value after) := by
  rw [regexTerm]
  refine gives_attempt.trans (or_congr ?_ (and_congr_right fun _ => ?_))
  · simp
  · refine gives_attempt.trans (or_congr ?_ ?_)
    · simp [TakesGroup]
    · simp

theorem regexAtom_gives {value : Unit} :
    (regexAtom parser).Gives value after ↔
      (∃ token, parser.Takes [Lexicon.regexChar, Lexicon.regexEscape, ".", "-", "]"] token after) ∨
      parser.Lacks [Lexicon.regexChar, Lexicon.regexEscape, ".", "-", "]"] ∧
        (parser.seesAny ["[", "[^"] = true ∧ (regexClass parser).Gives value after ∨
        parser.seesAny ["[", "[^"] = false ∧
          parser.TakesGroup ["(", Lexicon.regexGroupOpen] after) := by
  rw [regexAtom]
  refine gives_attempt.trans (or_congr ?_ (and_congr_right fun _ => ?_))
  · simp
  · by_cases hopens : parser.seesAny ["[", "[^"] = true
    · simp [hopens]
    · rw [if_neg hopens]
      refine gives_attempt.trans ?_
      simp [hopens, TakesGroup]

theorem regexFlags_gives {flags : Option Token} :
    (regexFlags parser).Gives flags after ↔
      (∃ token, parser.scanner.matching? ident = some token ∧
        (token.span.start = parser.scanner.previousEnd ∧
          (∃ name, parser.Takes [ident] name after ∧ some name = flags) ∨
        token.span.start ≠ parser.scanner.previousEnd ∧ none = flags ∧ parser = after)) ∨
      parser.scanner.matching? ident = none ∧ none = flags ∧ parser = after := by
  rw [regexFlags]
  split
  · rename_i hnone
    simp [hnone]
  · rename_i token htoken
    by_cases htouches : token.span.start = parser.scanner.previousEnd <;> simp [htoken, htouches]

theorem regexSet_gives {opening : Nat} {source : String} {flags : Option Token} {set : RegexSet} :
    (regexSet parser opening source flags).Gives set after ↔
      RegexSet.compile source ((flags.map Token.text).getD "") = .ok set ∧ parser = after := by
  rw [regexSet]
  split
  all_goals
    rename_i heq
    simp [heq]

theorem regexLiteral_gives {set : RegexSet} :
    (regexLiteral parser).Gives set after ↔
      ∃ opening inside, (parser.enter Lexicon.regexMode).Takes ["/"] opening inside ∧
      ∃ behind, (regexDisjunction inside).Gives () behind ∧ behind.sees "/" = true ∧
      ∃ closing atFlags, behind.leave.Takes ["/"] closing atFlags ∧
      ∃ source, atFlags.scanner.source.slice? ⟨inside.scanner.previousEnd, behind.start⟩ =
        some source ∧
      ∃ flags, (regexFlags atFlags).Gives flags after ∧
        RegexSet.compile source ((flags.map Token.text).getD "") = .ok set := by
  simp only [regexLiteral, Reply.gives_since, Reply.gives_bind, gives_consume, exists_prop,
    Reply.exists_unit]
  refine exists_congr fun opening => exists_congr fun inside => and_congr_right fun _ =>
    exists_congr fun behind => and_congr_right fun _ => ?_
  by_cases hsees : behind.sees "/" = true
  · simp only [hsees, if_true, true_and, Reply.gives_across, Reply.gives_bind, gives_consume,
      gives_textBetween, regexSet_gives, exists_prop]
    refine exists_congr fun closing => exists_congr fun atFlags => and_congr_right fun _ =>
      exists_congr fun source => ?_
    constructor
    · rintro ⟨_, ⟨hsource, rfl⟩, flags, _, hflags, hset, rfl⟩
      exact ⟨hsource, flags, hflags, hset⟩
    · rintro ⟨hsource, flags, hflags, hset⟩
      exact ⟨atFlags, ⟨hsource, rfl⟩, flags, after, hflags, hset, rfl⟩
  · simp [hsees]

/-! ## Terminals and suffixes -/

theorem terminal_gives {id : TerminalId} :
    (terminal parser).Gives id after ↔
      (∃ token middle, parser.Takes [ident] token middle ∧
        (middle.intern (.ident token.text)).Gives id after) ∨
      parser.Lacks [ident] ∧
        ((∃ token middle, parser.Takes [number] token middle ∧
          (middle.intern (.number (numberOf token))).Gives id after) ∨
        parser.Lacks [number] ∧
          ((∃ token middle, parser.Takes [string] token middle ∧
            (middle.intern (.string (textOf token))).Gives id after) ∨
          parser.Lacks [string] ∧ parser.sees "/" = true ∧
            ∃ set middle, (regexLiteral parser).Gives set middle ∧
              (middle.intern (.set set)).Gives id after)) := by
  rw [terminal]
  refine gives_attempt.trans (or_congr ?_ (and_congr_right fun _ => ?_))
  · simp only [Reply.gives_since, exists_prop]
  refine gives_attempt.trans (or_congr ?_ (and_congr_right fun _ => ?_))
  · simp only [Reply.gives_since, exists_prop]
  refine gives_attempt.trans (or_congr ?_ (and_congr_right fun _ => ?_))
  · simp only [Reply.gives_since, exists_prop]
  by_cases hsees : parser.sees "/" = true
  · simp only [hsees, if_true, true_and, Reply.gives_bind, exists_prop]
  · simp [hsees]

theorem upperBound_gives {bound : Option UInt64} :
    (upperBound parser).Gives bound after ↔
      (∃ token, parser.Takes [number] token after ∧ some (numberOf token) = bound) ∨
        (parser.Lacks [number] ∧ none = bound ∧ parser = after) := by
  refine gives_attempt.trans ?_
  simp [and_comm]

/-- The part of a range from the comma on: it gives the upper bound. -/
def TakesUpper (parser : Parser) (lower : UInt64) (upper : Option UInt64) (after : Parser) : Prop :=
  (∃ comma middle, parser.Takes [","] comma middle ∧ (upperBound middle).Gives upper after) ∨
    (parser.Lacks [","] ∧ some lower = upper ∧ parser = after)

theorem rangeSuffix_gives {suffix : Suffix} :
    (rangeSuffix parser).Gives suffix after ↔
      ∃ opening inside, parser.Takes ["\x7b"] opening inside ∧
      ∃ lowest atUpper, inside.Takes [number] lowest atUpper ∧
      ∃ upper atEnd, atUpper.TakesUpper (numberOf lowest) upper atEnd ∧
      ∃ closing, atEnd.Takes ["\x7d"] closing after ∧
        (∀ bound, upper = some bound → numberOf lowest ≤ bound) ∧
        Suffix.ofBounds (numberOf lowest) upper = suffix := by
  simp only [rangeSuffix, Reply.gives_since, Reply.gives_bind, gives_consume, exists_prop]
  refine exists_congr fun opening => exists_congr fun inside => and_congr_right fun _ =>
    exists_congr fun lowest => exists_congr fun atUpper => and_congr_right fun _ =>
    exists_congr fun upper => exists_congr fun atEnd => and_congr ?_ ?_
  · refine gives_attempt_absent.trans ?_
    simp [TakesUpper]
  · constructor
    · rintro ⟨closing, last, hclosing, hlast⟩
      split at hlast
      · obtain ⟨rfl, rfl⟩ := Reply.gives_done.1 hlast
        exact ⟨closing, hclosing, by simp, rfl⟩
      · rename_i bound
        split at hlast
        · exact absurd hlast Reply.not_gives_failed
        · rename_i hbound
          obtain ⟨rfl, rfl⟩ := Reply.gives_done.1 hlast
          refine ⟨closing, hclosing, fun other hother => ?_, rfl⟩
          cases hother
          exact UInt64.not_lt.1 hbound
    · rintro ⟨closing, hclosing, hbound, rfl⟩
      refine ⟨closing, after, hclosing, ?_⟩
      cases upper with
      | none => exact Reply.gives_done.2 ⟨rfl, rfl⟩
      | some bound =>
        simp only [if_neg (UInt64.not_lt.2 (hbound bound rfl))]
        exact Reply.gives_done.2 ⟨rfl, rfl⟩

theorem suffixes_gives {suffixes : List Suffix} :
    (parser.suffixes).Gives suffixes after ↔
      (∃ token middle, parser.Takes ["*", "+", "?"] token middle ∧
        ∃ others, (middle.suffixes).Gives others after ∧
          Suffix.ofSign token.rule :: others = suffixes) ∨
      parser.Lacks ["*", "+", "?"] ∧
        (parser.Foresees ["\x7b", number] true ∧
          (∃ first middle, (rangeSuffix parser).Gives first middle ∧
            ∃ others, (middle.suffixes).Gives others after ∧ first :: others = suffixes) ∨
        parser.Foresees ["\x7b", number] false ∧ [] = suffixes ∧ parser = after) := by
  rw [Parser.suffixes]
  refine gives_attempt.trans ?_
  simp only [Reply.gives_since, Reply.gives_bind, Reply.gives_map, gives_seesSequence, exists_prop]
  refine or_congr Iff.rfl (and_congr_right fun _ => ?_)
  constructor
  · rintro ⟨found, _, ⟨hfound, rfl⟩, h⟩
    cases found with
    | true => exact .inl ⟨hfound, by simpa using h⟩
    | false => exact .inr ⟨hfound, by simpa using h⟩
  · rintro (⟨hfound, h⟩ | ⟨hfound, h⟩)
    · exact ⟨true, parser, ⟨hfound, rfl⟩, by simpa using h⟩
    · exact ⟨false, parser, ⟨hfound, rfl⟩, by simpa using h⟩

theorem codeInFront_gives {predicate code : Option CodeSegment} :
    (codeInFront parser).Gives (predicate, code) after ↔
      (parser.sees "\x7b" = true ∧ ∃ first middle, (codeSegment parser).Gives first middle ∧
        ((∃ mark behind, middle.Takes ["?"] mark behind ∧ some first = predicate ∧
          (behind.sees "\x7b" = true ∧
            (∃ second, (codeSegment behind).Gives second after ∧ some second = code) ∨
          behind.sees "\x7b" = false ∧ none = code ∧ behind = after)) ∨
        middle.Lacks ["?"] ∧ none = predicate ∧ some first = code ∧ middle = after)) ∨
      parser.sees "\x7b" = false ∧ none = predicate ∧ none = code ∧ parser = after := by
  rw [codeInFront]
  by_cases hsees : parser.sees "\x7b" = true
  · simp only [hsees, if_true, true_and, Bool.true_eq_false, false_and, or_false,
      Reply.gives_since, Reply.gives_bind, exists_prop]
    refine exists_congr fun first => exists_congr fun middle => and_congr_right fun _ => ?_
    refine gives_attempt_absent.trans (or_congr ?_ ?_)
    · refine exists_congr fun mark => exists_congr fun behind => ?_
      by_cases hbehind : behind.sees "\x7b" = true
      · simp [hbehind, and_left_comm]
      · simp [hbehind, and_assoc, and_left_comm]
    · simp [and_assoc]
  · simp [hsees, and_assoc]

theorem labelName_gives {label : Option String} :
    (labelName parser).Gives label after ↔
      parser.Foresees [ident, "="] true ∧
        (∃ name middle, parser.Takes [ident] name middle ∧
          ∃ equals, middle.Takes ["="] equals after ∧ some name.text = label) ∨
      parser.Foresees [ident, "="] false ∧ none = label ∧ parser = after := by
  simp only [labelName, Reply.gives_since, Reply.gives_bind, gives_seesSequence, exists_prop]
  constructor
  · rintro ⟨found, _, ⟨hfound, rfl⟩, h⟩
    cases found with
    | true => exact .inl ⟨hfound, by simpa [and_left_comm] using h⟩
    | false => exact .inr ⟨hfound, by simpa using h⟩
  · rintro (⟨hfound, h⟩ | ⟨hfound, h⟩)
    · exact ⟨true, parser, ⟨hfound, rfl⟩, by simpa [and_left_comm] using h⟩
    · exact ⟨false, parser, ⟨hfound, rfl⟩, by simpa using h⟩

theorem codeBehind_gives {code : Option CodeSegment} :
    (codeBehind parser).Gives code after ↔
      parser.sees "\x7b" = true ∧
        (∃ segment, (codeSegment parser).Gives segment after ∧ some segment = code) ∨
      parser.sees "\x7b" = false ∧ none = code ∧ parser = after := by
  rw [codeBehind]
  by_cases hsees : parser.sees "\x7b" = true <;> simp [hsees]

/-! ## Components and branches -/

theorem branches_gives {branches : List Branch} :
    (parser.branches).Gives branches after ↔
      ∃ first middle, (branch parser).Gives first middle ∧
        ((∃ bar behind, middle.Takes ["|"] bar behind ∧
          ∃ others, (behind.branches).Gives others after ∧ first :: others = branches) ∨
        middle.Lacks ["|"] ∧ [first] = branches ∧ middle = after) := by
  rw [Parser.branches]
  simp only [Reply.gives_since, Reply.gives_bind, exists_prop]
  refine exists_congr fun first => exists_congr fun middle => and_congr_right fun _ => ?_
  refine gives_attempt_absent.trans ?_
  simp

theorem branch_gives {branch : Branch} :
    (parser.branch).Gives branch after ↔
      (parser.components).Gives branch.components after ∧
        branch.span = after.spanFrom parser.start := by
  obtain ⟨span, components⟩ := branch
  rw [Parser.branch]
  simp only [Reply.gives_since, Reply.gives_bind, Reply.gives_done, exists_prop]
  constructor
  · rintro ⟨components, _, h, heq, rfl⟩
    cases heq
    exact ⟨h, rfl⟩
  · rintro ⟨h, hspan⟩
    exact ⟨_, _, h, by rw [← hspan], rfl⟩

theorem components_gives {components : List Component} :
    (parser.components).Gives components after ↔
      parser.seesAny branchEnds = true ∧ [] = components ∧ parser = after ∨
      parser.seesAny branchEnds = false ∧
        ∃ first middle, (component parser).Gives first middle ∧
          ∃ others, (middle.components).Gives others after ∧ first :: others = components := by
  rw [Parser.components]
  by_cases hends : parser.seesAny branchEnds = true <;> simp [hends]

theorem component_gives {component : Component} :
    (parser.component).Gives component after ↔
      ∃ atLabel, (codeInFront parser).Gives (component.predicate, component.codeBefore) atLabel ∧
      ∃ atElement, (labelName atLabel).Gives component.label atElement ∧
      ∃ atSuffixes, (element atElement).Gives component.element atSuffixes ∧
      ∃ atCode, (suffixes atSuffixes).Gives component.suffixes atCode ∧
        (codeBehind atCode).Gives component.codeAfter after ∧
        component.span = after.spanFrom parser.start := by
  obtain ⟨span, label, predicate, codeBefore, element, suffixes, codeAfter⟩ := component
  rw [Parser.component]
  simp only [Reply.gives_since, Reply.gives_bind, Reply.gives_done, exists_prop]
  constructor
  · rintro ⟨⟨_, _⟩, atLabel, hfront, _, atElement, hlabel, _, atSuffixes, helement, _, atCode,
      hsuffixes, _, _, hcode, heq, rfl⟩
    cases heq
    exact ⟨atLabel, hfront, atElement, hlabel, atSuffixes, helement, atCode, hsuffixes, hcode, rfl⟩
  · rintro ⟨atLabel, hfront, atElement, hlabel, atSuffixes, helement, atCode, hsuffixes, hcode,
      hspan⟩
    exact ⟨_, atLabel, hfront, _, atElement, hlabel, _, atSuffixes, helement, _, atCode, hsuffixes,
      _, _, hcode, by rw [← hspan], rfl⟩

theorem element_gives {element : Element} :
    (parser.element).Gives element after ↔
      (∃ sign middle, parser.Takes ["~"] sign middle ∧
        ∃ inner, (middle.element).Gives inner after ∧ .negation inner = element) ∨
      parser.Lacks ["~"] ∧
        ((∃ opening inside, parser.Takes ["(", "(?=", "(?!"] opening inside ∧
          ∃ inner behind, (branches inside).Gives inner behind ∧
          ∃ closing, behind.Takes [")"] closing after ∧
            .group (groupKindOf opening) inner = element) ∨
        parser.Lacks ["(", "(?=", "(?!"] ∧
          ∃ id, (terminal parser).Gives id after ∧ .terminal id = element) := by
  rw [Parser.element]
  refine gives_attempt.trans (or_congr ?_ (and_congr_right fun _ => ?_))
  · simp
  · refine gives_attempt.trans ?_
    simp [and_left_comm]

/-! ## The whole grammar -/

theorem production_gives {production : Production} :
    (parser.production).Gives production after ↔
      ∃ name atColon, parser.Takes [ident] name atColon ∧
      ∃ colon inside, atColon.Takes [":"] colon inside ∧
      ∃ atEnd, (branches inside).Gives production.branches atEnd ∧
      ∃ semicolon last, atEnd.Takes [";"] semicolon last ∧ production.name = name.text ∧
        after = last.tell .debug
          s!"Parsed production '{name.text}' with {production.branches.length} alternatives" ∧
        production.span = after.spanFrom parser.start := by
  simp only [Parser.production, Reply.gives_since, Reply.gives_across, Reply.gives_bind,
    Reply.gives_done, gives_consume, exists_prop]
  constructor
  · rintro ⟨name, atColon, hname, colon, inside, hcolon, branches, atEnd, hbranches, semicolon, last,
      hsemicolon, rfl, rfl⟩
    exact ⟨name, atColon, hname, colon, inside, hcolon, atEnd, hbranches, semicolon, last,
      hsemicolon, rfl, rfl, rfl⟩
  · rintro ⟨name, atColon, hname, colon, inside, hcolon, atEnd, hbranches, semicolon, last,
      hsemicolon, hnamed, rfl, hspan⟩
    exact ⟨name, atColon, hname, colon, inside, hcolon, _, atEnd, hbranches, semicolon, last,
      hsemicolon, by rw [← hspan, ← hnamed], rfl⟩

theorem productions_gives {productions : List Production} :
    (parser.productions).Gives productions after ↔
      parser.sees ident = true ∧
        (∃ first middle, (production parser).Gives first middle ∧
          ∃ others, (middle.productions).Gives others after ∧ first :: others = productions) ∨
      parser.sees ident = false ∧ [] = productions ∧ parser = after := by
  rw [Parser.productions]
  by_cases hsees : parser.sees ident = true <;> simp [hsees]

theorem wholeGrammar_gives {grammar : Grammar} :
    (wholeGrammar parser).Gives grammar after ↔
      ∃ keyword atName, parser.Takes [Lexicon.keyword] keyword atName ∧
      ∃ name atOpening, atName.Takes [ident] name atOpening ∧
      ∃ opening inside, atOpening.Takes ["\x7b"] opening inside ∧
      ∃ atClosing, (productions inside).Gives grammar.productions atClosing ∧
        atClosing.sees "\x7d" = true ∧
      ∃ closing, atClosing.Takes ["\x7d"] closing after ∧ after.scanner.atEnd = true ∧
        grammar.name = name.text ∧ grammar.arena = after.arena ∧
        grammar.span = after.spanFrom parser.start := by
  simp only [wholeGrammar, Reply.gives_since, Reply.gives_bind, gives_consume, exists_prop]
  constructor
  · rintro ⟨keyword, atName, hkeyword, name, atOpening, hname, opening, inside, hopening,
      productions, atClosing, hproductions, h⟩
    split at h
    · rename_i hsees
      simp only [Reply.gives_bind, gives_consume, exists_prop] at h
      obtain ⟨closing, last, hclosing, h⟩ := h
      split at h
      · rename_i hend
        obtain ⟨rfl, rfl⟩ := Reply.gives_done.1 h
        exact ⟨keyword, atName, hkeyword, name, atOpening, hname, opening, inside, hopening,
          atClosing, hproductions, hsees, closing, hclosing, hend, rfl, rfl, rfl⟩
      · exact absurd h not_gives_expected
    · exact absurd h not_gives_expected
  · rintro ⟨keyword, atName, hkeyword, name, atOpening, hname, opening, inside, hopening, atClosing,
      hproductions, hsees, closing, hclosing, hend, hnamed, harena, hspan⟩
    refine ⟨keyword, atName, hkeyword, name, atOpening, hname, opening, inside, hopening, _,
      atClosing, hproductions, ?_⟩
    simp only [hsees, if_true, Reply.gives_bind, gives_consume, exists_prop]
    refine ⟨closing, after, hclosing, ?_⟩
    simp only [hend, if_true]
    exact Reply.gives_done.2 ⟨by rw [← hspan, ← hnamed, ← harena], rfl⟩

end GrammarLang.Grammar.Parser

namespace GrammarLang.Grammar

open GrammarLang.Scan GrammarLang.Text

/-! ## Texts -/

/-- What a text is parsed to, with rules that have been compiled or not. -/
def runWith (compiled : Except Error RuleTable) (source : Source) (prepare : Scanner → Scanner) :
    Except ParseError (Grammar × Scanner) × Journal :=
  match compiled with
  | .error error => (.error (.lexical error), [])
  | .ok table =>
    match Scanner.create table source with
    | .failed error scanner => (.error (.lexical error), scanner.journal)
    | .ok _ scanner =>
      match Parser.wholeGrammar ⟨prepare scanner, .empty⟩ with
      | .failed error after => (.error error, after.scanner.journal)
      | .ok grammar after _ => (.ok (grammar, after.scanner), after.scanner.journal)

-- The rules are not to be computed where a run is unfolded. They would be where it is unfolded for one
-- text, as a match on them is reduced first; so the functions are unfolded as a whole.

theorem run_eq (source : Source) (prepare : Scanner → Scanner) :
    run source prepare = runWith Lexicon.table source prepare := by
  have hrun : run = fun source prepare => runWith Lexicon.table source prepare := by
    delta run
    generalize Lexicon.table = compiled
    cases compiled <;> rfl
  rw [hrun]

theorem result_parse (source : Source) : (parse source).result = (run source id).1.map Prod.fst := by
  have hparse : parse = fun source =>
      ⟨(run source id).1.map Prod.fst, (run source id).2⟩ := by
    delta parse
    funext source
    generalize run source id = found
    cases found
    rfl
  rw [hparse]

theorem result_parseWithTokens (source : Source) :
    (parseWithTokens source).result = (run source Scanner.record).1.map fun (grammar, scanner) =>
      (grammar, scanner.takeRecorded.1) := by
  have hparse : parseWithTokens = fun source =>
      ⟨(run source Scanner.record).1.map fun (grammar, scanner) =>
        (grammar, scanner.takeRecorded.1), (run source Scanner.record).2⟩ := by
    delta parseWithTokens
    funext source
    generalize run source Scanner.record = found
    cases found
    rfl
  rw [hparse]

/-- A run succeeds just if the parser gives a grammar from the start of the text. -/
theorem run_eq_ok_iff {source : Source} {prepare : Scanner → Scanner} {grammar : Grammar}
    {last : Scanner} :
    (run source prepare).1 = .ok (grammar, last) ↔
      ∃ table scanner after, Lexicon.table = .ok table ∧
        Scanner.create table source = .ok () scanner ∧
        (Parser.wholeGrammar ⟨prepare scanner, .empty⟩).Gives grammar after ∧
        after.scanner = last := by
  rw [run_eq]
  generalize Lexicon.table = compiled
  cases compiled with
  | error error => simp [runWith]
  | ok table =>
    cases hcreate : Scanner.create table source with
    | failed error scanner => simp [runWith, hcreate]
    | ok _ scanner =>
      cases hparsed : Parser.wholeGrammar ⟨prepare scanner, .empty⟩ with
      | failed error after => simp [runWith, hcreate, hparsed]
      | ok parsed after used =>
        simp only [runWith, hcreate, hparsed, Except.ok.injEq, Prod.mk.injEq, Outcome.ok.injEq,
          exists_and_left, exists_eq_left', Reply.gives_ok, and_assoc, true_and]

/-- A text is parsed to a grammar just if the parser gives the grammar from its start. -/
theorem parse_eq_ok_iff {source : Source} {grammar : Grammar} :
    (parse source).result = .ok grammar ↔
      ∃ table scanner after, Lexicon.table = .ok table ∧
        Scanner.create table source = .ok () scanner ∧
        (Parser.wholeGrammar ⟨scanner, .empty⟩).Gives grammar after := by
  have hresult : (parse source).result = .ok grammar ↔
      ∃ last, (run source id).1 = .ok (grammar, last) := by
    rw [result_parse]
    generalize (run source id).1 = result
    cases result with
    | error error => simp [Except.map]
    | ok found => simp [Except.map, Prod.ext_iff]
  rw [hresult]
  simp only [run_eq_ok_iff]
  constructor
  · rintro ⟨last, table, scanner, after, htable, hcreate, hgives, -⟩
    exact ⟨table, scanner, after, htable, hcreate, hgives⟩
  · rintro ⟨table, scanner, after, htable, hcreate, hgives⟩
    exact ⟨_, table, scanner, after, htable, hcreate, hgives, rfl⟩

end GrammarLang.Grammar

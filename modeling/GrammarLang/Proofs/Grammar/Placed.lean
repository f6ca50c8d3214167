import GrammarLang.Proofs.Grammar.Sound
import GrammarLang.Proofs.Grammar.Twin
import GrammarLang.Proofs.Grammar.Unambiguous
import GrammarLang.Proofs.Scan.Choosing
import GrammarLang.Proofs.Scan.Invariant

/-! # What a parser shows of its text

A parser that stands somewhere in a text (**`Parser.StandsIn`**) shows stretches of that text: its
tokens and the places where it starts and where the last token ended lie between characters, in order.
Where a step of it fails, the failure tells of such a place, and never blames the rules for being
ambiguous or misplaced: **`ParseError.Placed`**. A lookahead does not fail at all
(**`exists_lookAhead`**), and there is never a choice between two tokens
(**`StandsIn.length_alternatives_le`**). -/

namespace GrammarLang.Text

open GrammarLang.Scan

/-- A part of a text, from one place between characters to another one. -/
structure Span.IsStretch (span : Span) (source : Source) : Prop where
  /-- It is not inverted. -/
  ordered : span.start ≤ span.stop
  /-- It starts between characters. -/
  start : IsBoundary source span.start
  /-- It stops between characters. -/
  stop : IsBoundary source span.stop

end GrammarLang.Text

namespace GrammarLang.Scan

open GrammarLang.Text

/-- A token was cut from a text. -/
def Token.IsPieceOf (token : Token) (source : Source) : Prop :=
  ∃ before front rest, source.chars = before ++ (front ++ rest) ∧
    token.span = ⟨byteSize before, byteSize before + byteSize front⟩ ∧
    token.text = String.ofList front

theorem Token.IsPieceOf.isStretch {token : Token} {source : Source} (h : token.IsPieceOf source) :
    token.span.IsStretch source := by
  obtain ⟨before, front, rest, hchars, hspan, -⟩ := h
  rw [hspan]
  refine ⟨Nat.le_add_right .., ⟨before, front ++ rest, hchars, rfl⟩, before ++ front, rest, ?_, ?_⟩
  · rw [hchars, List.append_assoc]
  · rw [byteSize_append]

end GrammarLang.Scan

namespace GrammarLang.Grammar

open GrammarLang.Scan GrammarLang.Text

open Lexicon (ident)

/-- Whether a failure is one of the rules and not of the text: a rule is no pattern or occurs twice,
rules tie that the parser cannot choose from, or a rule matches elsewhere. -/
def ParseError.blamesRules : ParseError → Bool
  | .lexical (.invalidPattern _) => true
  | .lexical (.duplicateLiteral ..) => true
  | .lexical (.ambiguousIgnore ..) => true
  | .lexical (.ambiguousAlternative ..) => true
  | .lexical (.misplacedMatch _) => true
  | _ => false

/-- A failure tells of a place between two characters of a text, and does not blame the rules. -/
structure ParseError.Placed (error : ParseError) (source : Source) : Prop where
  /-- The place. -/
  position : ∃ offset, IsBoundary source offset ∧ error.position? = some (source.position offset)
  /-- The rules are not to blame. -/
  blameless : error.blamesRules = false

/-! ## Rules that tie -/

section Ties

variable {table : RuleTable} {mode : String}

/-- Rules that tie are of one mind about whether to ignore the text. -/
theorem not_mixed (h : Lexicon.table = .ok table) {text : List Char} {count : Nat}
    (hlongest : IsLongest (table.rulesInMode mode) text count)
    (hignored : ∃ rule ∈ tied (table.rulesInMode mode) text count, rule.ignored = true)
    (hkept : ∃ rule ∈ tied (table.rulesInMode mode) text count, rule.ignored = false) : False := by
  obtain ⟨rule, hrule, hignored⟩ := hignored
  obtain ⟨other, hother, hkept⟩ := hkept
  rcases names_tied h hlongest with hone | ⟨-, -, hnames⟩
  · generalize tied (table.rulesInMode mode) text count = rules at hone hrule hother
    match rules with
    | [only] =>
      rw [List.mem_singleton.1 hrule, ← List.mem_singleton.1 hother, hkept] at hignored
      contradiction
    | [] => contradiction
  · have hname : rule.name ∈ [Lexicon.keyword, ident] := hnames ▸ List.mem_map_of_mem hrule
    have hignored' := (Lexicon.ignored_iff h (mem_of_mem_tied hrule).1).1 hignored
    have hnone : ∀ name ∈ [Lexicon.keyword, ident], name ∉ Lexicon.ignoredNames := by decide
    exact hnone _ hname hignored'

end Ties

/-- An advance that fails does so between two characters, and not because of the rules. -/
theorem placed_of_advance {scanner after : Scanner} (h : Lexicon.table = .ok scanner.table)
    {error : Error} (hadvance : scanner.advance = .failed error after) :
    (ParseError.lexical error).Placed scanner.source := by
  have hanchored : Anchored scanner.rules := Lexicon.anchored_mode h _
  obtain ⟨-, hfails⟩ := Scanner.advance_fails hanchored hadvance
  obtain ⟨⟨place, rfl⟩, -⟩ := Scanner.advance_failed hanchored hadvance
  have hboundary : IsBoundary scanner.source place.offset := isBoundary_offset place
  change Fails _ _ (place.offset, place.rest) error at hfails
  generalize place.offset = offset at hfails hboundary
  generalize place.rest = rest at hfails
  cases hfails with
  | unknown => exact ⟨⟨_, hboundary, rfl⟩, rfl⟩
  | mixed longest ignored kept => exact (not_mixed h longest ignored kept).elim
  | refused => exact ⟨⟨_, hboundary, rfl⟩, rfl⟩

/-! ## Looking ahead -/

/-- One step ahead does not fail. -/
theorem exists_stepAhead_in {scanner : Scanner} (h : Lexicon.table = .ok scanner.table) :
    ∃ seen there, scanner.stepAhead = .ok seen there ∧ there.table = scanner.table := by
  have hanchored : Anchored scanner.rules := Lexicon.anchored_mode h _
  obtain ⟨found, place, hfound⟩ : ∃ found place, scanner.finding = (found, place) := ⟨_, _, rfl⟩
  obtain ⟨hholds, -⟩ := Scanner.finding_holds hanchored hfound
  rw [Scanner.stepAhead, hfound]
  generalize place.rest = text at hholds
  cases hholds with
  | atEnd => exact ⟨_, _, rfl, rfl⟩
  | unknown => exact ⟨_, _, rfl, rfl⟩
  | mixed longest ignored kept => exact (not_mixed h longest ignored kept).elim
  | lexeme => exact ⟨_, _, rfl, rfl⟩

/-- No number of steps ahead fails. -/
theorem exists_stepsAhead {scanner : Scanner} (h : Lexicon.table = .ok scanner.table)
    (last : Sighting) (count : Nat) :
    ∃ seen there, scanner.stepsAhead last count = .ok seen there := by
  induction count generalizing scanner last with
  | zero => exact ⟨_, _, rfl⟩
  | succ count ih =>
    cases last with
    | tokens set =>
      obtain ⟨seen, there, hstep, htable⟩ := exists_stepAhead_in h
      obtain ⟨others, final, hsteps⟩ := ih (htable ▸ h) seen
      exact ⟨seen :: others, final, by simp only [Scanner.stepsAhead, hstep, hsteps, Outcome.map]⟩
    | atEnd => exact ⟨_, _, rfl⟩
    | unknown => exact ⟨_, _, rfl⟩

/-- Looking ahead does not fail, and the scanner stays where it is. -/
theorem exists_lookAhead {scanner : Scanner} (h : Lexicon.table = .ok scanner.table)
    (count : Nat) : ∃ seen, scanner.lookAhead count = .ok seen scanner ∧
      (scanner.stepsAhead scanner.sighting count).result = .ok seen := by
  obtain ⟨seen, there, hsteps⟩ := exists_stepsAhead h scanner.sighting count
  exact ⟨seen, by rw [Scanner.lookAhead, hsteps], by rw [hsteps]; rfl⟩

/-- What is asked of the token sets ahead has an answer. -/
theorem exists_matchesSequence {scanner : Scanner} (h : Lexicon.table = .ok scanner.table)
    (rules : List String) : ∃ found, scanner.matchesSequence rules = .ok found scanner := by
  cases rules with
  | nil => exact ⟨_, rfl⟩
  | cons rule others =>
    rw [Scanner.matchesSequence]
    split
    · exact ⟨_, rfl⟩
    · split
      · exact ⟨_, rfl⟩
      · obtain ⟨seen, hseen, -⟩ := exists_lookAhead h others.length
        exact ⟨_, by rw [hseen]; rfl⟩

/-! ## Standing in a text -/

/-- The parser stands somewhere in a text. -/
structure Parser.StandsIn (parser : Parser) (source : Source) : Prop where
  /-- It is this text. -/
  source_eq : parser.scanner.source = source
  /-- The rules are those of the notation. -/
  table : Lexicon.table = .ok parser.scanner.table
  /-- It stands at some text, which was scanned in some mode. -/
  at_text : ∃ mode text, parser.scanner.At mode text

/-- The place in front of an end of a text lies between characters. -/
theorem isBoundary_of_suffix {source : Source} {offset : Nat} {text : List Char}
    (hsuffix : text <:+ source.chars) (hoffset : offset + byteSize text = source.size) :
    IsBoundary source offset := by
  obtain ⟨before, hbefore⟩ := hsuffix
  refine ⟨before, text, hbefore.symm, ?_⟩
  rw [source.size_eq, ← hbefore, byteSize_append] at hoffset
  omega

theorem isBoundary_size (source : Source) : IsBoundary source source.size :=
  isBoundary_of_suffix List.nil_suffix rfl

namespace Parser

variable {parser after : Parser} {source : Source}

theorem first_mem_currentTokens {scanner : Scanner} {set : TokenSet}
    (h : scanner.current = some set) : set.first ∈ scanner.currentTokens := by
  rw [Scanner.currentTokens, h]
  exact List.mem_cons_self

theorem Stands.standsIn {entered : List String} {text : List Char} (h : parser.Stands entered text)
    (hsource : parser.scanner.source = source) : parser.StandsIn source :=
  ⟨hsource, h.table, _, _, h.at_text⟩

/-- At first the parser stands in its text. -/
theorem standsIn_create {table : RuleTable} {scanner : Scanner} {arena : Arena}
    (htable : Lexicon.table = .ok table) (hcreate : Scanner.create table source = .ok () scanner) :
    (Parser.mk scanner arena).StandsIn source := by
  obtain ⟨hstands, -⟩ := stands_create arena htable hcreate
  have hanchored : Anchored (Scanner.initial table source).rules := Lexicon.anchored_mode htable _
  rw [Scanner.create_eq] at hcreate
  exact hstands.standsIn (Scanner.advance_first hanchored hcreate).2.2.1

namespace StandsIn

/-- A current token is a piece of the text. -/
theorem isPieceOf (h : parser.StandsIn source) {token : Token}
    (htoken : token ∈ parser.scanner.currentTokens) : token.IsPieceOf source := by
  obtain ⟨rfl, -, mode, text, hat⟩ := h
  have hfirst := hat.first
  generalize hcurrent : parser.scanner.current = current at hfirst
  rw [Scanner.currentTokens, hcurrent] at htoken
  generalize hhere : (parser.scanner.previousEnd, text) = here at hfirst
  generalize parser.scanner.spot = spot at hfirst
  cases hfirst with
  | atEnd => contradiction
  | @lexeme offset gap front rest set passed lexeme read =>
    obtain ⟨rfl, rfl⟩ := Prod.mk.inj hhere
    obtain ⟨rule, -, value, -, rfl⟩ := Reads.of_mem read htoken
    obtain ⟨before, hbefore⟩ := hat.suffix
    have hoffset := hat.offset_eq
    rw [parser.scanner.source.size_eq, ← hbefore] at hoffset
    simp only [byteSize_append] at hoffset
    have hprevious : parser.scanner.previousEnd = byteSize before := by omega
    refine ⟨before ++ gap, front, rest, ?_, ?_, rfl⟩
    · rw [← hbefore, List.append_assoc]
    · rw [byteSize_append, hprevious]

/-- The current tokens are stretches of the text. -/
theorem isStretch (h : parser.StandsIn source) {token : Token}
    (htoken : token ∈ parser.scanner.currentTokens) : token.span.IsStretch source :=
  (h.isPieceOf htoken).isStretch

/-- There is one current token at most, unless it is the keyword, which is a name as well. -/
theorem rules_current (h : parser.StandsIn source) :
    parser.scanner.currentTokens.length ≤ 1 ∨
      parser.scanner.currentTokens.map Token.rule = [Lexicon.keyword, ident] := by
  obtain ⟨-, htable, mode, text, hat⟩ := h
  have hfirst := hat.first
  generalize hcurrent : parser.scanner.current = current at hfirst
  rw [Scanner.currentTokens, hcurrent]
  generalize (parser.scanner.previousEnd, text) = here at hfirst
  generalize parser.scanner.spot = spot at hfirst
  cases hfirst with
  | atEnd => exact .inl (Nat.zero_le _)
  | lexeme passed lexeme read =>
    rcases names_tied htable lexeme.longest with hone | ⟨-, -, hnames⟩
    · exact .inl (read.length_eq ▸ hone)
    · exact .inr ((Reads.names_eq read).trans hnames)

/-- There is never a choice between two tokens. -/
theorem length_alternatives_le (h : parser.StandsIn source) {rules : List String}
    (hrules : Askable rules) : (parser.scanner.alternatives rules).length ≤ 1 := by
  obtain ⟨hnodup, hask⟩ := hrules
  have hcount (name : String) : rules.count name ≤ 1 := List.nodup_iff_count.1 hnodup name
  rw [Scanner.length_alternatives]
  rcases h.rules_current with hone | hnames
  · generalize parser.scanner.currentTokens = tokens at hone
    match tokens with
    | [] => exact Nat.zero_le _
    | [token] => exact hcount token.rule
  · rw [hnames]
    change rules.count Lexicon.keyword + (rules.count ident + 0) ≤ 1
    by_cases hkeyword : Lexicon.keyword ∈ rules
    · rw [List.count_eq_zero.2 fun hident => hask ⟨hkeyword, hident⟩]
      exact hcount _
    · rw [List.count_eq_zero.2 hkeyword, Nat.zero_add]
      exact hcount _

/-- The token consumed last ended between characters. -/
theorem isBoundary_previousEnd (h : parser.StandsIn source) :
    IsBoundary source parser.scanner.previousEnd := by
  obtain ⟨rfl, -, mode, text, hat⟩ := h
  exact isBoundary_of_suffix hat.suffix hat.offset_eq

/-- The parser stands between characters. -/
theorem isBoundary_start (h : parser.StandsIn source) : IsBoundary source parser.start := by
  rw [start, Scanner.currentOffset]
  split
  · rename_i set hcurrent
    exact (h.isStretch (first_mem_currentTokens hcurrent)).start
  · rw [← h.source_eq]
    exact isBoundary_offset _

/-- A node from one place of the parser to another one is a stretch of the text. -/
theorem isStretch_spanFrom (h : parser.StandsIn source) (hafter : after.StandsIn source) :
    (after.spanFrom parser.start).IsStretch source := by
  refine ⟨Nat.le_max_right .., h.isBoundary_start, ?_⟩
  rw [spanFrom]
  rcases Nat.le_total after.scanner.previousEnd parser.start with hle | hle
  · rw [Nat.max_eq_right hle]
    exact h.isBoundary_start
  · rw [Nat.max_eq_left hle]
    exact hafter.isBoundary_previousEnd

/-- Where the scanner fails, there is a place for it. -/
theorem placed_of_next (h : parser.StandsIn source) {error : Error} {scanner : Scanner}
    (hnext : parser.scanner.next = .failed error scanner) :
    (ParseError.lexical error).Placed source := by
  rw [Scanner.next_eq] at hnext
  have htable : Lexicon.table = .ok parser.scanner.behindCurrent.table := h.table
  exact h.source_eq ▸ placed_of_advance htable hnext

/-- A mismatch is where the current token is, or at the end of the text. -/
theorem placed_unexpected (h : parser.StandsIn source) (names : List String) :
    (ParseError.lexical (parser.scanner.unexpected names)).Placed source := by
  rw [Scanner.unexpected]
  split
  · rename_i set hcurrent
    have hstretch := h.isStretch (first_mem_currentTokens hcurrent)
    exact ⟨⟨_, hstretch.start, by rw [← h.source_eq]; rfl⟩, rfl⟩
  · exact ⟨⟨_, isBoundary_size source, by rw [← h.source_eq]; rfl⟩, rfl⟩

/-- Behind the next token the parser stands in the text again. -/
theorem next (h : parser.StandsIn source) {scanner : Scanner}
    (hcurrent : parser.scanner.currentTokens ≠ []) (hnext : parser.scanner.next = .ok () scanner) :
    (parser.withScanner scanner).StandsIn source := by
  obtain ⟨hsource, htable, mode, text, hat⟩ := h
  cases hset : parser.scanner.current with
  | none => simp [Scanner.currentTokens, hset] at hcurrent
  | some set =>
    obtain ⟨hafter, htable', hsource', -⟩ := hat.next (Lexicon.anchored_mode htable _) hset hnext
    exact ⟨hsource'.trans hsource, htable.trans (by rw [← htable']; rfl), _, _, hafter⟩

/-- Entering and leaving modes and telling something do not move the parser. -/
theorem switched (h : parser.StandsIn source) (entered : List String) (told : List Entry) :
    (parser.switched entered told).StandsIn source := by
  obtain ⟨hsource, htable, mode, text, hat⟩ := h
  exact ⟨hsource, htable, mode, text, hat.first, hat.suffix, hat.offset_eq⟩

end StandsIn

end Parser

end GrammarLang.Grammar

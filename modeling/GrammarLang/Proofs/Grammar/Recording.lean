import GrammarLang.Proofs.Grammar.Parsed
import GrammarLang.Proofs.Grammar.Placed
import GrammarLang.Proofs.Grammar.Sound
import GrammarLang.Proofs.Grammar.TwinTree

/-! # Recording changes nothing

A parser that keeps record of its token sets does the same as one that does not: the two are side by
side, as the twinning **`recording`** says. The same twinning tells of every run what becomes of a text
that is no grammar, and where the nodes of a tree stand: failures are **`ParseError.Placed`**, the
places of nodes are stretches of the text, and terminals are found in the arena. Both are said of a
whole text by **`run_recording`**. -/

namespace GrammarLang.Scan.Scanner

/-- The same scanner with another record. -/
def keeping (scanner : Scanner) (recorded : Option (List TokenSet)) : Scanner :=
  { scanner with recorded }

variable (scanner : Scanner) (recorded : Option (List TokenSet))

/-- An advance is the same whatever is recorded. -/
theorem advance_keeping :
    match scanner.advance with
    | .ok _ after => (scanner.keeping recorded).advance =
        .ok () (after.keeping (recorded.map (after.current.toList ++ ·)))
    | .failed error after =>
      (scanner.keeping recorded).advance = .failed error (after.keeping recorded) := by
  obtain ⟨table, source, start, previousEnd, entered, current, earlier, told⟩ := scanner
  simp only [keeping, advance, finding, rules, mode]
  generalize scan _ start = found
  obtain ⟨found, place⟩ := found
  cases found with
  | atEnd => cases recorded <;> rfl
  | unknown c => rfl
  | misplaced rule => rfl
  | mixed rules count => rfl
  | lexeme first others count =>
    simp only []
    cases evaluateAll source (place.span count) (place.text count) first others with
    | error error => rfl
    | ok set => rfl

/-- Consuming a token set is the same whatever is recorded. -/
theorem next_keeping :
    match scanner.next with
    | .ok _ after => (scanner.keeping recorded).next =
        .ok () (after.keeping (recorded.map (after.current.toList ++ ·)))
    | .failed error after =>
      (scanner.keeping recorded).next = .failed error (after.keeping recorded) := by
  have h := scanner.behindCurrent.advance_keeping recorded
  have hsame : (scanner.keeping recorded).behindCurrent = scanner.behindCurrent.keeping recorded := rfl
  rw [next_eq, next_eq, hsame]
  exact h

/-- A step ahead is the same whatever is recorded. -/
theorem stepAhead_keeping :
    match scanner.stepAhead with
    | .ok seen there => (scanner.keeping recorded).stepAhead = .ok seen (there.keeping recorded)
    | .failed error there =>
      (scanner.keeping recorded).stepAhead = .failed error (there.keeping recorded) := by
  obtain ⟨found, place, hfound⟩ : ∃ found place, scanner.finding = (found, place) := ⟨_, _, rfl⟩
  have hsame : (scanner.keeping recorded).finding = (found, place) := hfound
  rw [stepAhead, stepAhead, hfound, hsame]
  cases found <;> rfl

/-- The same is seen ahead whatever is recorded. -/
theorem result_stepsAhead_keeping (last : Sighting) (count : Nat) :
    ((scanner.keeping recorded).stepsAhead last count).result =
      (scanner.stepsAhead last count).result := by
  induction count generalizing scanner last with
  | zero => rfl
  | succ count ih =>
    cases last with
    | tokens set =>
      have hstep := scanner.stepAhead_keeping recorded
      simp only [stepsAhead]
      cases hahead : scanner.stepAhead with
      | ok seen there =>
        rw [hahead] at hstep
        simp only [hstep, result_map, ih there]
      | failed error there =>
        rw [hahead] at hstep
        simp only [hstep, Outcome.result]
    | atEnd => rfl
    | unknown => rfl

/-- What is asked of the token sets ahead is answered the same whatever is recorded. -/
theorem result_matchesSequence_keeping (rules : List String) :
    ((scanner.keeping recorded).matchesSequence rules).result =
      (scanner.matchesSequence rules).result := by
  cases rules with
  | nil => rfl
  | cons rule others =>
    have hsame : (scanner.keeping recorded).matching? rule = scanner.matching? rule := rfl
    rw [matchesSequence, matchesSequence, hsame]
    split
    · rfl
    · split
      · rfl
      · rw [result_map, result_map, result_lookAhead, result_lookAhead]
        exact congrArg _ (scanner.result_stepsAhead_keeping recorded ..)

theorem tell_keeping (detail : Detail) (message : String) :
    (scanner.tell detail message).keeping recorded = (scanner.keeping recorded).tell detail message :=
  rfl

/-- Entering a mode is the same whatever is recorded. -/
theorem pushMode_keeping (mode : String) :
    (scanner.keeping recorded).pushMode mode = (scanner.pushMode mode).keeping recorded := by
  simp only [pushMode, tell_keeping]
  rw [apply_ite (keeping · recorded)]
  rfl

/-- Leaving a mode is the same whatever is recorded. -/
theorem popMode_keeping :
    (scanner.keeping recorded).popMode.2 = scanner.popMode.2.keeping recorded := by
  obtain ⟨table, source, place, previousEnd, entered, current, earlier, told⟩ := scanner
  cases entered <;> rfl

end GrammarLang.Scan.Scanner

namespace GrammarLang.Grammar

open GrammarLang.Scan GrammarLang.Text

open Lexicon (ident number string)

namespace RegexSet

/-- Letters in front of the first one that is no flag have one byte each. -/
theorem front_of_readFlags {flags : Regex.Flags} {spacedOut : Bool} {index place : Nat}
    {letters : List Char} {letter : Char}
    (h : readFlags flags spacedOut index letters = .error (.unknownFlag letter place)) :
    ∃ front rest, letters = front ++ letter :: rest ∧ place = index + byteSize front := by
  fun_induction readFlags flags spacedOut index letters with
  | case1 => contradiction
  | case7 =>
    cases h
    exact ⟨[], _, rfl, rfl⟩
  | case2 flags spacedOut index letters ih | case3 flags spacedOut index letters ih
  | case4 flags spacedOut index letters ih | case5 flags spacedOut index letters ih
  | case6 flags spacedOut index letters ih =>
    obtain ⟨front, rest, rfl, rfl⟩ := ih h
    refine ⟨_ :: front, rest, rfl, ?_⟩
    rw [byteSize_cons]
    exact Nat.add_assoc ..

theorem front_of_unknownFlag {source flags : String} {letter : Char} {place : Nat}
    (h : compile source flags = .error (.unknownFlag letter place)) :
    ∃ front rest, flags.toList = front ++ letter :: rest ∧ place = byteSize front := by
  cases hread : readFlags {} false 0 flags.toList with
  | error error =>
    rw [compile, hread] at h
    cases h
    simpa using front_of_readFlags hread
  | ok reading =>
    simp only [compile, hread, bind, Except.bind] at h
    split at h <;> simp at h

end RegexSet

/-- The same parser with another record of token sets. -/
def Parser.keeping (parser : Parser) (recorded : Option (List TokenSet)) : Parser :=
  parser.withScanner (parser.scanner.keeping recorded)

/-- The tokens on record are pieces of a text. -/
def Records (recorded : Option (List TokenSet)) (source : Source) : Prop :=
  ∀ sets ∈ recorded, ∀ set ∈ sets, ∀ token ∈ set.toList, token.IsPieceOf source

theorem recorded_nil (source : Source) : Records (some []) source := by
  rintro _ ⟨⟩
  nofun

/-- A parser that stands in a text, and one that keeps another record of its token sets. -/
def recording (source : Source) : Twinning where
  beside parser twin := parser.StandsIn source ∧
    ∃ recorded, Records recorded source ∧ twin = parser.keeping recorded
  horizon := 0
  lenient := False
  failures error error' := error' = error ∧ error.Placed source
  tokens token token' := token' = token ∧ token.IsPieceOf source
  spans span span' := span' = span ∧ span.IsStretch source
  terminals arena _ id id' := id' = id ∧ id.index < arena.size
  lenient_of_horizon := Nat.not_lt_zero 0

namespace Parser

variable {source : Source} {parser twin after after' last last' : Parser}

/-- The tokens behind the consumed ones go on record. -/
theorem StandsIn.records (h : parser.StandsIn source) {recorded : Option (List TokenSet)}
    (hrecords : Records recorded source) :
    Records (recorded.map (parser.scanner.current.toList ++ ·)) source := by
  intro sets hsets set hset token htoken
  obtain ⟨earlier, hearlier, rfl⟩ := Option.map_eq_some_iff.1 hsets
  rcases List.mem_append.1 hset with hcurrent | hmem
  · refine h.isPieceOf ?_
    rw [Scanner.currentTokens, Option.mem_toList.1 hcurrent]
    exact htoken
  · exact hrecords earlier hearlier set hmem token htoken

/-- Single steps are the same whatever is recorded. -/
theorem lawful_recording (source : Source) : (recording source).Lawful where
  current := by
    rintro parser _ ⟨h, recorded, hrecords, rfl⟩
    change List.Forall₂ _ parser.scanner.currentTokens parser.scanner.currentTokens
    exact List.forall₂_same.2 fun token htoken => ⟨rfl, h.isPieceOf htoken⟩
  same := by
    rintro token _ ⟨rfl, -⟩
    exact ⟨rfl, rfl, rfl⟩
  single := fun ⟨h, _⟩ hrules => .inr (h.length_alternatives_le hrules)
  next := by
    rintro parser _ ⟨h, recorded, hrecords, rfl⟩ hcurrent
    have hkeeping := parser.scanner.next_keeping recorded
    cases hnext : parser.scanner.next with
    | ok value scanner =>
      rw [hnext] at hkeeping
      have hafter := h.next hcurrent hnext
      exact .inr ⟨_, hkeeping, hafter, _, hafter.records hrecords, rfl⟩
    | failed error scanner =>
      rw [hnext] at hkeeping
      exact .inr ⟨error, _, hkeeping, rfl, h.placed_of_next hnext⟩
  unexpected := by
    rintro parser _ ⟨h, recorded, hrecords, rfl⟩ names
    exact .inr ⟨rfl, h.placed_unexpected names⟩

theorem enter_recording (h : (recording source).beside parser twin) (mode : String) :
    (recording source).beside (parser.enter mode) (twin.enter mode) := by
  obtain ⟨h, recorded, hrecords, rfl⟩ := h
  obtain ⟨told, henter⟩ := parser.enter_eq mode
  exact ⟨henter ▸ h.switched _ _, recorded, hrecords,
    congrArg parser.withScanner (parser.scanner.pushMode_keeping recorded mode)⟩

theorem leave_recording (h : (recording source).beside parser twin) :
    (recording source).beside parser.leave twin.leave := by
  obtain ⟨h, recorded, hrecords, rfl⟩ := h
  obtain ⟨entered, told, hleave⟩ : ∃ entered told, parser.leave = parser.switched entered told := by
    cases hentered : parser.scanner.entered with
    | nil =>
      rw [leave, Scanner.popMode, hentered]
      exact ⟨_, _, rfl⟩
    | cons mode outer => exact ⟨outer, leave_eq hentered⟩
  exact ⟨hleave ▸ h.switched _ _, recorded, hrecords,
    congrArg parser.withScanner (parser.scanner.popMode_keeping recorded)⟩

/-- Parsers side by side have the same arena. -/
theorem arena_recording (h : (recording source).beside parser twin) : twin.arena = parser.arena := by
  obtain ⟨-, _, -, rfl⟩ := h
  rfl

/-- Parsers side by side give the same places to their nodes. -/
theorem spanFrom_recording (h : (recording source).beside parser twin)
    (hafter : (recording source).beside after after') :
    (recording source).spans (after.spanFrom parser.start) (after'.spanFrom twin.start) := by
  obtain ⟨h, _, -, rfl⟩ := h
  obtain ⟨hafter, _, -, rfl⟩ := hafter
  exact ⟨rfl, h.isStretch_spanFrom hafter⟩

theorem textBetween_of_slice? {start stop : Nat} {text : String}
    (h : parser.scanner.source.slice? ⟨start, stop⟩ = some text) :
    parser.textBetween start stop = .done text parser := by
  rw [textBetween, h]

/-- The text between the ends of two tokens is the same whatever is recorded. -/
theorem textBetween_recording (h : (recording source).beside parser twin)
    (hafter : (recording source).beside after after') (hlast : (recording source).beside last last')
    {text : String} (hslice : source.slice? ⟨parser.scanner.previousEnd, after.start⟩ = some text) :
    (last.textBetween parser.scanner.previousEnd after.start).Twins (recording source)
      (fun final final' left right => final = last ∧ final' = last' ∧ left = text ∧ right = text)
      (last'.textBetween twin.scanner.previousEnd after'.start) := by
  have hbeside := hlast
  obtain ⟨-, _, -, rfl⟩ := h
  obtain ⟨-, _, -, rfl⟩ := hafter
  obtain ⟨hlast, recorded, -, rfl⟩ := hlast
  rw [← hlast.source_eq] at hslice
  have htwin : (last.keeping recorded).textBetween parser.scanner.previousEnd after.start =
      .done text (last.keeping recorded) := textBetween_of_slice? hslice
  rw [textBetween_of_slice? hslice]
  change Reply.Twins _ _ _
    ((last.keeping recorded).textBetween parser.scanner.previousEnd after.start)
  rw [htwin]
  exact .done hbeside ⟨rfl, rfl, rfl, rfl⟩

/-- Behind the token that a mode is entered with the parser stands at the text of the mode. -/
theorem StandsIn.stands_entered (h : parser.StandsIn source) {mode rule : String} {opening : Token}
    (htakes : (parser.enter mode).Takes [rule] opening after) :
    after.Stands (mode :: parser.scanner.entered) parser.scanner.place.rest ∧
      after.arena = parser.arena ∧ after.scanner.source = source := by
  obtain ⟨set, hskips, -⟩ := htakes.offers
  obtain ⟨told, henter⟩ := parser.enter_eq mode
  rw [henter] at hskips
  have hswitched := h.switched (mode :: parser.scanner.entered) told
  obtain ⟨-, -, mode', text, hat⟩ := hswitched
  obtain ⟨hconsumes, harena, -⟩ := hskips.consumes h.table hat
  exact ⟨hconsumes.stands, harena, hconsumes.source_eq.trans h.source_eq⟩

/-- Code is read the same whatever is recorded. -/
theorem codeSegment_recording (h : (recording source).beside parser twin) :
    (codeSegment parser).Twins (recording source)
      (Grows parser.arena twin.arena fun _ _ left right =>
        (recording source).spans left.span right.span ∧ left.text = right.text)
      (codeSegment twin) := by
  have hlaw := lawful_recording source
  rw [codeSegment, codeSegment]
  refine Reply.Twins.since (Reply.Twins.bind
    (consumeAny_twins hlaw (enter_recording h _) (by decide))
    fun _ _ inside inside' hopening _ hinside _ => ?_)
  obtain ⟨hstands, harena, hsource⟩ := h.1.stands_entered (gives_consumeAny.1 hopening)
  refine (codeTokens_twins hlaw hinside).bind fun _ _ behind behind' hcode _ hbehind _ => ?_
  obtain ⟨sets, text, hgathers, -, hsees⟩ := codeTokens_spells hstands hcode
  obtain ⟨current, hcurrent, -⟩ := current_of_sees hsees
  have hslice := hsource ▸ hgathers.slice_eq hstands codeMode_ne hcurrent
  refine Reply.Twins.bind (Reply.Twins.across (consumeAny_twins hlaw (leave_recording hbehind)
    (by decide))) fun _ _ after after' hclosing _ hafter _ => ?_
  have hsame : after.arena = parser.arena := by
    rw [(gives_consumeAny.1 (Reply.gives_across.1 hclosing)).arena_eq]
    exact hgathers.arena_eq.trans harena
  refine (textBetween_recording hinside hbehind hafter hslice).map ?_
  rintro _ _ _ _ - - ⟨rfl, rfl, rfl, rfl⟩
  refine ⟨hsame ▸ .refl _, ?_, fun _ _ _ _ => ⟨spanFrom_recording h hafter, rfl⟩⟩
  rw [arena_recording h, arena_recording hafter, hsame]

/-- Flags are read the same whatever is recorded. -/
theorem regexFlags_recording (h : (recording source).beside parser twin) :
    (regexFlags parser).Twins (recording source)
      (fun after _ left right => after.arena = parser.arena ∧ right = left ∧
        ∀ token, left = some token → token.IsPieceOf source)
      (regexFlags twin) := by
  have hsame : twin.scanner.matching? ident = parser.scanner.matching? ident ∧
      twin.scanner.previousEnd = parser.scanner.previousEnd := by
    obtain ⟨-, _, -, rfl⟩ := h
    exact ⟨rfl, rfl⟩
  have hnone : (Reply.done none parser : Reply (Option Token) 0 parser).Twins (recording source)
      (fun after _ left right => after.arena = parser.arena ∧ right = left ∧
        ∀ token, left = some token → token.IsPieceOf source) (Reply.done none twin) :=
    .done h ⟨rfl, rfl, nofun⟩
  rw [regexFlags, regexFlags, hsame.1, hsame.2]
  cases parser.scanner.matching? ident with
  | none => exact hnone
  | some token =>
    simp only []
    split
    · refine .since (.map (consumeAny_twins (lawful_recording source) h (by decide)) ?_)
      rintro token token' after after' hgives - ⟨rfl, hpiece⟩
      exact ⟨(gives_consumeAny.1 hgives).arena_eq, rfl, fun _ h => Option.some.inj h ▸ hpiece⟩
    · exact hnone

/-- A set of texts is made the same whatever is recorded. -/
theorem regexSet_recording (h : (recording source).beside parser twin) {opening : Nat}
    (hopening : IsBoundary source opening) {text : String} {flags : Option Token}
    (hflags : ∀ token, flags = some token → token.IsPieceOf source) :
    (regexSet parser opening text flags).Twins (recording source)
      (fun after after' left right => after = parser ∧ after' = twin ∧ left = right)
      (regexSet twin opening text flags) := by
  have hposition (place : Nat) : twin.scanner.position place = parser.scanner.position place ∧
      parser.scanner.position place = source.position place := by
    obtain ⟨h, _, -, rfl⟩ := h
    exact ⟨rfl, by rw [Scanner.position, h.source_eq]⟩
  rw [regexSet, regexSet]
  cases hcompile : RegexSet.compile text ((flags.map Token.text).getD "") with
  | ok set => exact .done h ⟨rfl, rfl, rfl⟩
  | error error =>
    cases error with
    | invalidRegex =>
      simp only [hposition]
      exact .failed (.inr ⟨rfl, ⟨_, hopening, rfl⟩, rfl⟩)
    | unknownFlag letter index =>
      simp only [hposition]
      refine .failed (.inr ⟨rfl, ⟨_, ?_, rfl⟩, rfl⟩)
      obtain ⟨front, rest, hletters, rfl⟩ := RegexSet.front_of_unknownFlag hcompile
      cases flags with
      | none => simp at hletters
      | some token =>
        obtain ⟨before, letters, behind, hchars, hspan, htext⟩ := hflags token rfl
        have hlist : letters = front ++ letter :: rest := by
          simpa [htext] using hletters
        refine ⟨before ++ front, letter :: rest ++ behind, ?_, ?_⟩
        · rw [hchars, hlist]
          simp only [List.append_assoc]
        · rw [byteSize_append]
          simp [hspan]

/-- Regular expressions are read the same whatever is recorded. -/
theorem regexLiteral_recording (h : (recording source).beside parser twin) :
    (regexLiteral parser).Twins (recording source) (Grows parser.arena twin.arena fun _ _ => Eq)
      (regexLiteral twin) := by
  have hlaw := lawful_recording source
  rw [regexLiteral, regexLiteral]
  refine Reply.Twins.since (Reply.Twins.bind
    (consumeAny_twins hlaw (enter_recording h _) (by decide))
    fun _ _ inside inside' hopening _ hinside _ => ?_)
  obtain ⟨hstands, harena, hsource⟩ := h.1.stands_entered (gives_consumeAny.1 hopening)
  refine (regexDisjunction_twins hlaw hinside).bind fun _ _ behind behind' hinner _ hbehind _ => ?_
  obtain ⟨sets, text, hgathers, -⟩ := regexDisjunction_spells hstands hinner
  rw [sees_twins hlaw hbehind]
  split
  · rename_i hsees
    obtain ⟨current, hcurrent, -⟩ := current_of_sees hsees
    have hslice := hsource ▸ hgathers.slice_eq hstands regexMode_ne hcurrent
    refine Reply.Twins.bind (Reply.Twins.across (consumeAny_twins hlaw (leave_recording hbehind)
      (by decide))) fun _ _ atFlags atFlags' hclosing _ hatFlags _ => ?_
    have hsame : atFlags.arena = parser.arena := by
      rw [(gives_consumeAny.1 (Reply.gives_across.1 hclosing)).arena_eq]
      exact hgathers.arena_eq.trans harena
    refine (textBetween_recording hinside hbehind hatFlags hslice).bind ?_
    rintro _ _ _ _ - - - ⟨rfl, rfl, rfl, rfl⟩
    refine (regexFlags_recording hatFlags).bind ?_
    rintro flags _ atSet atSet' - - hatSet ⟨hflags, rfl, hpieces⟩
    have hstart : twin.start = parser.start := by
      obtain ⟨-, _, -, rfl⟩ := h
      rfl
    rw [hstart]
    refine (regexSet_recording hatSet h.1.isBoundary_start hpieces).mono ?_
    rintro set _ after after' - - ⟨rfl, rfl, rfl⟩
    refine ⟨hflags.trans hsame ▸ .refl _, ?_, fun _ _ _ _ => rfl⟩
    rw [arena_recording h, arena_recording hatSet, hflags.trans hsame]
  · exact expected_twins hlaw hbehind _

theorem seesSequence_of_ok {rules : List String} {found : Option Token} {scanner : Scanner}
    (h : parser.scanner.matchesSequence rules = .ok found scanner) :
    parser.seesSequence rules = .done found.isSome parser := by
  rw [seesSequence, h]

/-- The functions for trees do the same whatever is recorded. -/
theorem lawfulTree_recording (source : Source) : (recording source).LawfulTree where
  toLawful := lawful_recording source
  foresees := by
    rintro parser _ rules ⟨h, recorded, hrecords, rfl⟩ -
    obtain ⟨found, hfound⟩ := exists_matchesSequence h.table rules
    have hsame := parser.scanner.result_matchesSequence_keeping recorded rules
    rw [hfound] at hsame
    have hbeside : (recording source).beside parser (parser.keeping recorded) :=
      ⟨h, recorded, hrecords, rfl⟩
    cases htwin : (parser.scanner.keeping recorded).matchesSequence rules with
    | ok found' scanner =>
      rw [htwin] at hsame
      cases hsame
      have hsees : (parser.keeping recorded).seesSequence rules =
          .done found.isSome (parser.keeping recorded) := seesSequence_of_ok htwin
      rw [seesSequence_of_ok hfound, hsees]
      exact .inl (.done hbeside rfl)
    | failed error scanner =>
      rw [htwin] at hsame
      contradiction
  intern := by
    rintro parser _ ⟨h, recorded, hrecords, rfl⟩ terminal -
    have hlt := (parser.arena.numbered_intern terminal).lt _ List.mem_cons_self
    exact .ok ⟨⟨h.source_eq, h.table, h.at_text⟩, recorded, hrecords, rfl⟩
      ⟨parser.arena.within_intern terminal, parser.arena.within_intern terminal,
        fun _ _ hwithin _ => ⟨rfl, hlt.trans_le hwithin.length_le⟩⟩
  tell := by
    rintro parser _ ⟨h, recorded, hrecords, rfl⟩ detail message
    exact ⟨h.switched parser.scanner.entered _, recorded, hrecords, rfl⟩
  span := spanFrom_recording
  range := by
    rintro parser _ token _ ⟨h, recorded, hrecords, rfl⟩ ⟨rfl, hpiece⟩ lower upper
    exact .inr ⟨rfl, ⟨_, hpiece.isStretch.start, by rw [← h.source_eq]; rfl⟩, rfl⟩
  code h _ := codeSegment_recording h
  regex h _ := regexLiteral_recording h

end Parser

/-! ## Whole texts -/

/-- A grammar has its place in a text: all its nodes do, and all its terminals are in its arena. -/
structure PlacedIn (grammar : Grammar) (source : Source) : Prop where
  /-- The place of the grammar. -/
  span : grammar.span.IsStretch source
  /-- The productions with all nodes inside. -/
  productions : ∀ production ∈ grammar.productions,
    production.Matches (fun id _ => id.index < grammar.arena.size)
      (fun span _ => span.IsStretch source) production

variable {source : Source}

/-- What parsers side by side give is the same grammar, and it has its place in the text. -/
theorem placedIn_of_recording {after after' : Parser} {grammar grammar' : Grammar}
    (hbeside : (recording source).beside after after')
    (h : grammar.arena = after.arena ∧ grammar'.arena = after'.arena ∧
      (recording source).spans grammar.span grammar'.span ∧ grammar.name = grammar'.name ∧
      List.Forall₂ (Production.Matches ((recording source).terminals grammar.arena grammar'.arena)
        (recording source).spans) grammar.productions grammar'.productions) :
    grammar' = grammar ∧ grammar.PlacedIn source := by
  obtain ⟨harena, harena', ⟨hspan, hstretch⟩, hname, hproductions⟩ := h
  have hsame : grammar'.productions = grammar.productions := by
    refine (List.forall₂_eq_eq_eq ▸ hproductions.imp fun _ _ hmatches => ?_ :
      grammar.productions = grammar'.productions).symm
    exact Production.eq_of_matches (hmatches.mono (fun h => h.1.symm) fun h => h.1.symm)
  have harenas : grammar'.arena = grammar.arena := by
    rw [harena, harena', Parser.arena_recording hbeside]
  refine ⟨?_, hstretch, fun production hproduction => ?_⟩
  · obtain ⟨span, name, productions, arena⟩ := grammar
    obtain ⟨span', name', productions', arena'⟩ := grammar'
    obtain ⟨rfl, rfl, rfl, rfl⟩ : span' = span ∧ name = name' ∧ productions' = productions ∧
      arena' = arena := ⟨hspan, hname, hsame, harenas⟩
    rfl
  · rw [hsame] at hproductions
    exact (List.forall₂_same.1 hproductions production hproduction).mono (fun h => h.2) fun h => h.2

/-- A text is read the same whether its token sets are recorded or not: either it is parsed to one
grammar, which has its place in the text, or it fails at one place of the text. -/
theorem run_recording (source : Source) :
    (∃ grammar last last', (run source id).1 = .ok (grammar, last) ∧
      (run source Scanner.record).1 = .ok (grammar, last') ∧ grammar.PlacedIn source ∧
      Records last'.recorded source) ∨
    ∃ error, (run source id).1 = .error error ∧ (run source Scanner.record).1 = .error error ∧
      error.Placed source := by
  obtain ⟨table, htable⟩ := Lexicon.exists_table
  rw [run_eq, run_eq, htable]
  cases hcreate : Scanner.create table source with
  | failed error scanner =>
    rw [runWith, runWith, hcreate]
    exact .inr ⟨_, rfl, rfl, placed_of_advance htable hcreate⟩
  | ok value scanner =>
    have hstands : (Parser.mk scanner .empty).StandsIn source := Parser.standsIn_create htable hcreate
    have hnone : scanner.recorded = none := (Parser.stands_create .empty htable hcreate).2
    have hbeside : (recording source).beside ⟨scanner, .empty⟩ ⟨scanner.record, .empty⟩ := by
      refine ⟨hstands, _, hstands.records (recorded_nil source), ?_⟩
      rw [Scanner.record, hnone]
      rfl
    have htwins := Parser.wholeGrammar_twins (Parser.lawfulTree_recording source) hbeside
    simp only [runWith, hcreate, id]
    cases hparsed : Parser.wholeGrammar ⟨scanner, .empty⟩ with
    | failed error after =>
      rw [hparsed] at htwins
      obtain hlenient | ⟨_, after', htwin, rfl, hplaced⟩ := htwins
      · exact hlenient.elim
      rw [htwin]
      exact .inr ⟨_, rfl, rfl, hplaced⟩
    | ok grammar after used =>
      rw [hparsed] at htwins
      obtain hlost | ⟨grammar', after', ⟨used', htwin⟩, hbeside, hvalues⟩ := htwins
      · exact absurd hlost (Nat.not_lt_zero _)
      obtain ⟨rfl, hplaced⟩ := placedIn_of_recording hbeside hvalues
      obtain ⟨-, recorded, hrecords, rfl⟩ := hbeside
      rw [htwin]
      exact .inl ⟨_, _, _, rfl, rfl, hplaced, hrecords⟩

/-- A text is parsed to the same grammar, or fails the same way, whether its token sets are recorded
or not. -/
theorem result_parse_eq (source : Source) :
    (parse source).result = (parseWithTokens source).result.map Prod.fst := by
  rw [result_parse, result_parseWithTokens]
  rcases run_recording source with ⟨grammar, last, last', h, h', -⟩ | ⟨error, h, h', -⟩
  · rw [h, h']
    rfl
  · rw [h, h']
    rfl

/-- A parsed grammar has its place in the text. -/
theorem placedIn_of_parse {grammar : Grammar} (h : (parse source).result = .ok grammar) :
    grammar.PlacedIn source := by
  rw [result_parse] at h
  rcases run_recording source with ⟨parsed, last, -, hrun, -, hplaced, -⟩ | ⟨error, hrun, -⟩
  · rw [hrun] at h
    cases h
    exact hplaced
  · rw [hrun] at h
    contradiction

/-- The token sets that come with a grammar are pieces of the text. -/
theorem isPieceOf_of_parseWithTokens {grammar : Grammar} {sets : List TokenSet}
    (h : (parseWithTokens source).result = .ok (grammar, sets)) {set : TokenSet} (hset : set ∈ sets)
    {token : Token} (htoken : token ∈ set.toList) : token.IsPieceOf source := by
  rw [result_parseWithTokens] at h
  rcases run_recording source with ⟨parsed, -, last, -, hrun, -, hrecords⟩ | ⟨error, -, hrun, -⟩
  · rw [hrun] at h
    cases h
    obtain hnone | ⟨recorded, hsome⟩ := last.recorded.eq_none_or_eq_some
    · simp [Scanner.takeRecorded, hnone] at hset
    · rw [Scanner.takeRecorded, hsome] at hset
      exact hrecords recorded hsome set (List.mem_reverse.1 hset) token htoken
  · rw [hrun] at h
    contradiction

/-- Where parsing fails, there is a place for it in the text. -/
theorem placed_of_parse_error {error : ParseError} (h : (parse source).result = .error error) :
    error.Placed source := by
  rw [result_parse] at h
  rcases run_recording source with ⟨parsed, last, -, hrun, -⟩ | ⟨_, hrun, -, hplaced⟩
  · rw [hrun] at h
    contradiction
  · rw [hrun] at h
    cases h
    exact hplaced

end GrammarLang.Grammar

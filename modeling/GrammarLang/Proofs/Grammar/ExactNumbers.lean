import GrammarLang.Proofs.Grammar.Evaluations
import GrammarLang.Proofs.Grammar.Modes
import GrammarLang.Proofs.Grammar.Numbers
import GrammarLang.Proofs.Grammar.RegexSlash

/-! # Every number is exact

What a run takes for a number is one, and what it cannot take for one ends it. So the numbers of a
parsed grammar are those of its text: a component is **`WrittenWith`** token sets of the text, where each
number among terminals and bounds has a token of its own, and its value is that of the digits of this
token. A number that needs more than 64 bits is refused where it is evaluated
(**`result_large_iff`**), and bounds that are not in order are refused where the opening brace stands
(**`Call.MadeIn.result_of_inverted`**). All of this is one theorem: **`numbers_exact`**. -/

namespace GrammarLang.Grammar

open GrammarLang.Scan GrammarLang.Text Relation

open Lexicon (number)

/-! ## Components -/

/-- Every component of a grammar is spelt by some token sets of the text, one behind the other, of which
the first one stands where the component starts. -/
theorem Has.exists_spells {source : Source} {grammar : Grammar} {sets : List TokenSet}
    (h : (parseWithTokens source).result = .ok (grammar, sets)) {part : Component}
    (hpart : grammar.Has (.component part)) :
    ∃ before own after, sets = before ++ own ++ after ∧
      own.head?.map (fun set => set.first.span.start) = some part.span.start ∧
      ComponentSpells grammar.arena part own := by
  obtain ⟨parser, last, hstands, -, harena, hrecorded, hgives, rfl⟩ := run_of_parseWithTokens h
  obtain ⟨_, _, -, _, _, -, _, _, -, _, -, -, _, -, hend, -, hsame, -⟩ :=
    Parser.wholeGrammar_gives.1 hgives
  have hproper : parser.arena.Proper := harena ▸ Arena.proper_empty
  -- The component is read on the way: some token sets in front of it, its own, and some behind it.
  obtain ⟨start, stop, hstart, hread, hstop⟩ := hpart.isRead Parser.stepwise_goes hgives
  obtain ⟨before, text, hfront⟩ := hstart.consumes _ hstands hproper
  obtain ⟨own, text', hown, hspells⟩ :=
    Parser.component_spells hfront.stands (hfront.proper hproper) hread
  obtain ⟨after, text'', hbehind⟩ :=
    hstop.consumes _ hown.stands (hown.proper (hfront.proper hproper))
  have hatStart := hfront.recorded [] (by simpa using hrecorded)
  have hatStop := hown.recorded _ hatStart
  have hatEnd := hbehind.recorded _ hatStop
  -- No terminal of it changes place behind it, so it is spelt in the arena of the grammar as well.
  have hspelt : ComponentSpells grammar.arena part own := hspells _ (hsame ▸ hbehind.within)
  refine ⟨before, own, after, ?_, ?_, hspelt⟩
  · have hnone : last.scanner.current = none := by simpa [Scanner.atEnd] using hend
    rw [hatEnd, hnone]
    simp
  · -- It starts at the first one, as the parser passes what it consumes.
    obtain ⟨-, passed, hpasses⟩ := Parser.stepwise_follows.component hread _ hfront.stands
    have hkept := Option.some.inj ((hpasses.recorded _ hatStart).symm.trans hatStop)
    obtain rfl : passed = own :=
      List.append_cancel_left (List.reverse_injective (List.append_cancel_left hkept))
    obtain ⟨first, others, rfl⟩ : ∃ first others, passed = first :: others :=
      List.exists_cons_of_ne_nil hspelt.ne_nil
    obtain ⟨_, -, _, -, _, -, _, -, -, hspan⟩ := Parser.component_gives.1 hread
    rw [hspan]
    exact congrArg some (Parser.start_eq hpasses.current).symm

/-- The token sets that a text is cut into have numbers for numbers. -/
theorem numeric_of_parseWithTokens {source : Source} {grammar : Grammar} {sets : List TokenSet}
    (h : (parseWithTokens source).result = .ok (grammar, sets)) : ∀ set ∈ sets, Numeric set := by
  obtain ⟨marked, literals, rfl, hlaidOut⟩ := (tokens_laid_out source).2 grammar sets h
  obtain ⟨table, stop, htable, hscanned⟩ := hlaidOut.scanned
  simpa using numeric_of_scanned htable hscanned

/-- Token sets that a component is written with: those of the parts of it, in order. -/
structure WrittenWith (arena : Arena) (part : Component)
    (front label element suffixes behind : List TokenSet) : Prop where
  /-- Predicate and code stand in front, -/
  inFront : FrontSpells part.predicate part.codeBefore front
  /-- then the label, -/
  labelled : Maybe LabelSpells part.label label
  /-- then the element. -/
  spelt : ElementSpells arena part.element element
  /-- If it is a number, maybe negated, this is the exact value of the one token behind the signs of
  negation. -/
  exact : ∀ id value, part.element.unnegated = .terminal id →
    arena.get? id = some (.number value) → ∃ tildes set, element = tildes ++ [set] ∧
      (∀ tilde ∈ tildes, Is tilde "~") ∧ NumberIs value set
  /-- Then come the suffixes, and their bounds are exact as well. -/
  bounds : Each Bounds part.suffixes suffixes
  /-- Further code stands behind. -/
  code : Maybe CodeSpells part.codeAfter behind

/-- The numbers of a grammar are those of the token sets of its text. -/
structure KeepsNumbers (grammar : Grammar) (sets : List TokenSet) : Prop where
  /-- Every number among the terminals is the element of a component, maybe negated. -/
  occurs : ∀ id value, grammar.arena.get? id = some (.number value) →
    ∃ part, grammar.Has (.component part) ∧ part.element.unnegated = .terminal id
  /-- Every component is written with some token sets of the text, one behind the other, of which the
  first one stands where the component starts. -/
  written : ∀ part, grammar.Has (.component part) →
    ∃ before front label element suffixes behind after,
      sets = before ++ (front ++ label ++ element ++ suffixes ++ behind) ++ after ∧
      (front ++ label ++ element ++ suffixes ++ behind).head?.map (fun set => set.first.span.start) =
        some part.span.start ∧
      WrittenWith grammar.arena part front label element suffixes behind

theorem keepsNumbers_of_parseWithTokens {source : Source} {grammar : Grammar} {sets : List TokenSet}
    (h : (parseWithTokens source).result = .ok (grammar, sets)) : grammar.KeepsNumbers sets := by
  have hparsed : (parse source).result = .ok grammar := by
    rw [result_parse_eq, h]
    rfl
  refine ⟨fun id value hget => exists_component_of_parse hparsed hget, fun part hpart => ?_⟩
  obtain ⟨before, own, after, hsets, hstart, hspells⟩ := hpart.exists_spells h
  have hnumeric : ∀ set ∈ own, Numeric set := fun set hset =>
    numeric_of_parseWithTokens h set (by simp [hsets, hset])
  -- All of its token sets were evaluated, so the numbers among them are exact.
  cases hspells with
  | @parts _ front label element suffixes behind inFront labelled spelt repeated code =>
    simp only [List.forall_mem_append] at hnumeric
    obtain ⟨⟨⟨-, helement⟩, hsuffixes⟩, -⟩ := hnumeric
    exact ⟨before, front, label, element, suffixes, behind, after, hsets, hstart, inFront, labelled,
      spelt, fun id value hid hget => spelt.numberIs helement hid hget, repeated.bounds hsuffixes, code⟩

/-! ## Large numbers -/

/-- **A number is refused just if the run evaluates one that needs more than 64 bits.** -/
theorem result_large_iff {source : Source} {text reason : String} {position : Position} :
    (parse source).result = .error (.lexical (.decode number text reason position)) ↔
      ∃ scanner offset, Evaluates source scanner ∧ scanner.FindsNumber text offset ∧
        2 ^ 64 ≤ decimalValue text ∧ reason = "Number does not fit in 64 bits" ∧
        position = source.position offset := by
  -- Runs fail like this because of what they evaluate, and only numbers are evaluated like this.
  rw [result_unreadable_iff rfl]
  constructor
  · rintro ⟨scanner, after, hevaluates, hadvance⟩
    obtain ⟨htable, rfl⟩ := hevaluates.standsIn
    obtain ⟨offset, hfinds, hlarge, hreason, hposition⟩ :=
      (Scanner.advance_refuses_number_iff htable).1 ⟨after, hadvance⟩
    exact ⟨scanner, offset, hevaluates, hfinds, hlarge, hreason, hposition⟩
  · rintro ⟨scanner, offset, hevaluates, hfinds, hlarge, hreason, hposition⟩
    obtain ⟨htable, rfl⟩ := hevaluates.standsIn
    obtain ⟨after, hadvance⟩ :=
      (Scanner.advance_refuses_number_iff htable).2 ⟨offset, hfinds, hlarge, hreason, hposition⟩
    exact ⟨scanner, after, hevaluates, hadvance⟩

/-! ## Bounds that are not in order -/

namespace Parser

variable {parser inside after last behind final : Parser} {text : List Char}
  {opening lowest comma highest closing : Token}

/-- Where a brace is taken, there is no sign that is a suffix of its own. -/
theorem Stands.lacks_signs (h : parser.Stands [] text)
    (hopening : parser.Takes ["\x7b"] opening inside) : parser.Lacks ["*", "+", "?"] := by
  obtain ⟨rule, hrule, hbrace⟩ := hopening.exists_sees
  obtain rfl := List.mem_singleton.1 hrule
  have hsign : '\x7b' ∈ signChars := by decide
  obtain ⟨rest, hrest⟩ := h.behindGap_of_sign hsign hbrace
  -- The text leads with a brace, so no other sign is seen.
  rw [lacks_iff_sees]
  have hother {c : Char} (hc : c ∈ signChars) (hne : c ≠ '\x7b') :
      parser.sees (String.singleton c) = false := by
    rw [h.sees_eq (.sign hc), lead, hrest]
    simpa using hne.symm
  intro other hmem
  simp only [List.mem_cons, List.not_mem_nil, or_false] at hmem
  obtain rfl | rfl | rfl := hmem
  · exact hother (c := '*') (by decide) (by decide)
  · exact hother (c := '+') (by decide) (by decide)
  · exact hother (c := '?') (by decide) (by decide)

/-- Where a brace and a number are taken, the brace is seen to open a range. -/
theorem Stands.foresees_range (h : parser.Stands [] text)
    (hopening : parser.Takes ["\x7b"] opening inside) (hlowest : inside.Takes [number] lowest after) :
    parser.Foresees ["\x7b", number] true := by
  obtain ⟨rule, hrule, hbrace⟩ := hopening.exists_sees
  obtain rfl := List.mem_singleton.1 hrule
  obtain ⟨rule, hrule, hnumber⟩ := hlowest.exists_sees
  obtain rfl := List.mem_singleton.1 hrule
  -- What is seen behind the brace is told by the text there, as what is foreseen is.
  obtain ⟨set, hskips, -⟩ := hopening.skips
  rw [(h.skip hskips).stands.sees_eq .number] at hnumber
  exact (h.foresees_iff .number .number).2 (by rw [hbrace, hnumber]; rfl)

/-- A range with two bounds that are not in order is refused. -/
theorem failure?_rangeSuffix (hopening : parser.Takes ["\x7b"] opening inside)
    (hlowest : inside.Takes [number] lowest after) (hcomma : after.Takes [","] comma last)
    (hhighest : last.Takes [number] highest behind) (hclosing : behind.Takes ["\x7d"] closing final)
    (hless : numberOf highest < numberOf lowest) :
    parser.rangeSuffix.failure? = some (.invalidRange (numberOf lowest) (numberOf highest)
      (final.scanner.position opening.span.start), final) := by
  rw [rangeSuffix, Reply.failure?_since]
  refine (gives_consume.2 hopening).failure?_bind ((gives_consume.2 hlowest).failure?_bind ?_)
  -- All of the range is read before its bounds are compared.
  have hupper : (upperBound last).Gives (some (numberOf highest)) behind :=
    upperBound_gives.2 (.inl ⟨highest, hhighest, rfl⟩)
  refine (gives_attempt_absent.2 (.inl ⟨comma, last, hcomma,
    Reply.gives_since.2 hupper⟩)).failure?_bind ?_
  refine (gives_consume.2 hclosing).failure?_bind ?_
  simp only [if_pos hless]
  rfl

end Parser

/-- Each call of a run is made in the modes of its function. -/
theorem Call.MadeIn.stands {source : Source} {call : Call} (h : call.MadeIn source) : call.Stands := by
  obtain ⟨table, scanner, compiled, created, reached⟩ := h
  exact Call.stands_of_reflTransGen reached ⟨_, (Parser.stands_create .empty compiled created).1⟩

/-- **Bounds that are not in order are refused** where suffixes are read, at the opening brace. -/
theorem Call.MadeIn.result_of_inverted {source : Source} {state inside after last behind final : Parser}
    {opening lowest comma highest closing : Token} (h : (Call.on .suffixes state).MadeIn source)
    (hopening : state.Takes ["\x7b"] opening inside) (hlowest : inside.Takes [number] lowest after)
    (hcomma : after.Takes [","] comma last) (hhighest : last.Takes [number] highest behind)
    (hclosing : behind.Takes ["\x7d"] closing final)
    (hless : decimalValue highest.text < decimalValue lowest.text) :
    (parse source).result = .error (.invalidRange (Parser.numberOf lowest)
      (Parser.numberOf highest) (source.position opening.span.start)) := by
  have hinside : (Call.on .suffixes state).Comes inside := Call.Comes.here.takes hopening
  have hlast := (hinside.takes hlowest).takes hcomma
  have hfinal := (hlast.takes hhighest).takes hclosing
  -- Both are numbers, so their values are compared as the numbers that their digits stand for.
  have hlower := (h.standsIn hinside).isNumber hlowest
  have hupper := (h.standsIn hlast).isNumber hhighest
  rw [← hlower.exact, ← hupper.exact, ← UInt64.lt_iff_toNat_lt] at hless
  obtain ⟨text, hstands⟩ := h.stands
  have hrange := Parser.failure?_rangeSuffix hopening hlowest hcomma hhighest hclosing hless
  have hposition := (h.standsIn hfinal).source_eq
  have hfails : (Call.on .suffixes state).failure? = _ :=
    Call.failure?_suffixes (hstands.lacks_signs hopening)
      (hstands.foresees_range hopening hlowest) hrange
  rw [h.result_of_failure hfails, Scanner.position, hposition]

/-! ## Runs -/

/-- What becomes of numbers in a run on a text. -/
structure NumbersExact (source : Source) : Prop where
  /-- A grammar keeps the numbers of its text. -/
  kept : ∀ grammar, (parse source).result = .ok grammar →
    ∃ sets, (parseWithTokens source).result = .ok (grammar, sets) ∧ grammar.KeepsNumbers sets
  /-- Whatever becomes of the run, each number that a function asks for and takes has a value, which is
  that of its digits, so there is no need for another one to go on with. -/
  taken : ∀ (call : Call) (state : Parser) token after, call.MadeIn source → call.Asks state [number] →
    state.Takes [number] token after → IsNumber token (Parser.numberOf token)
  /-- A number is refused just if the run evaluates one that needs more than 64 bits, with its text and
  in its place. -/
  large : ∀ text reason position,
    (parse source).result = .error (.lexical (.decode number text reason position)) ↔
      ∃ scanner offset, Evaluates source scanner ∧ scanner.FindsNumber text offset ∧
        2 ^ 64 ≤ decimalValue text ∧ reason = "Number does not fit in 64 bits" ∧
        position = source.position offset
  /-- What is found as a number is made of digits. -/
  decimal : ∀ scanner text offset, Evaluates source scanner → scanner.FindsNumber text offset →
    IsDecimal text
  /-- Where suffixes are read, two bounds between braces that are not in order are refused at the
  opening brace. -/
  inverted : ∀ (state inside after last behind final : Parser) opening lowest comma highest closing,
    (Call.on .suffixes state).MadeIn source → state.Takes ["\x7b"] opening inside →
    inside.Takes [number] lowest after → after.Takes [","] comma last →
    last.Takes [number] highest behind → behind.Takes ["\x7d"] closing final →
    decimalValue highest.text < decimalValue lowest.text →
    (parse source).result = .error (.invalidRange (Parser.numberOf lowest)
      (Parser.numberOf highest) (source.position opening.span.start))

/-- **Numbers are never lost.** -/
theorem numbers_exact (source : Source) : NumbersExact source where
  kept grammar hparsed := by
    obtain ⟨sets, hsets⟩ := exists_tokens_of_parse hparsed
    exact ⟨sets, hsets, keepsNumbers_of_parseWithTokens hsets⟩
  taken call state token after hmade hasks htakes := by
    have hmoves : call.MovesOn state := .inl ⟨[number], token, hasks, htakes.1⟩
    exact (hmade.standsIn hmoves.comes).isNumber htakes
  large _ _ _ := result_large_iff
  decimal scanner text offset hevaluates hfinds := by
    obtain ⟨first, others, count, place, hfound, hnumber, rfl, -⟩ := hfinds
    obtain ⟨-, -, -, hdecimal⟩ := Scanner.only_number hevaluates.standsIn.1 hfound hnumber
    exact hdecimal
  inverted _ _ _ _ _ _ _ _ _ _ _ hmade hopening hlowest hcomma hhighest hclosing hless :=
    hmade.result_of_inverted hopening hlowest hcomma hhighest hclosing hless

/-- Zeros in front do not put bounds in order. -/
example : (match (parse (.ofString "grammar G { a : x{3,02} ; }")).result with
    | .error error => some error
    | .ok _ => none) = some (.invalidRange 3 2 ⟨1, 18⟩) := by
  rw [result_parse_words]
  decide +kernel

/-- The first number that needs more than 64 bits. -/
example : (match (parse (.ofString "grammar G { a : 18446744073709551616 ; }")).result with
    | .error error => some error
    | .ok _ => none) = some (.lexical (.decode number "18446744073709551616"
      "Number does not fit in 64 bits" ⟨1, 17⟩)) := by
  rw [result_parse_words]
  decide +kernel

end GrammarLang.Grammar

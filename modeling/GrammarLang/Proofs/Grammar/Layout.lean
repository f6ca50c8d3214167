import GrammarLang.Proofs.Grammar.Marks
import GrammarLang.Proofs.Grammar.Parts
import GrammarLang.Proofs.Grammar.Recording

/-! # The layout of a grammar text

The token sets that come with a parsed grammar make up the text in blocks: pieces of code, regular
expressions between slashes, and single tokens of the notation. **`Layout`** says which block belongs
to which part of the tree and in which mode each of its sets was scanned. From it and from the order
of the sets follows where in the text each mode holds: **`LaidOut`**, which
**`tokens_laid_out`** says of every text. -/

namespace GrammarLang.Grammar

open GrammarLang.Scan GrammarLang.Text

/-! ## Blocks -/

/-- Marked token sets that make up a part of a tree, or are a single token that is no part. For a
regular expression the span from its opening slash through its closing one is given as well. -/
inductive Block (arena : Arena) : List Marked → List Part → List Span → Prop
  /-- A token of the notation. -/
  | sign (set : TokenSet) : Block arena [⟨defaultMode, set⟩] [] []
  /-- Code: everything behind the opening brace is scanned as code, the closing brace included. -/
  | code {segment : CodeSegment} {opening closing : TokenSet} {inner : List TokenSet}
      (opens : Is opening "\x7b") (closes : Is closing "\x7d")
      (span_eq : segment.span = ⟨opening.first.span.start, closing.first.span.stop⟩)
      (text_eq : segment.text.toList = textOfSets inner) :
      Block arena (⟨defaultMode, opening⟩ :: (inner ++ [closing]).map (Marked.mk Lexicon.codeMode))
        [.code segment] []
  /-- A name, a number or a string. -/
  | plain {id : TerminalId} {terminal : Terminal} {set : TokenSet}
      (get : arena.get? id = some terminal) (spelt : TerminalSpells terminal [set]) :
      Block arena [⟨defaultMode, set⟩] [.terminal id] []
  /-- A regular expression: everything behind the opening slash is scanned as such, the closing slash
  included. Flags are a name that touches the closing slash. -/
  | literal {id : TerminalId} {regexSet : RegexSet} {opening closing : TokenSet}
      {inner : List TokenSet} {flags : Option TokenSet}
      (get : arena.get? id = some (.set regexSet)) (opens : Is opening "/") (closes : Is closing "/")
      (source_eq : regexSet.source.toList = textOfSets inner)
      (flags_eq : regexSet.flags.toList = textOfSets flags.toList)
      (touches : ∀ name ∈ flags, Is name Lexicon.ident ∧
        name.first.span.start = closing.first.span.stop) :
      Block arena (⟨defaultMode, opening⟩ ::
          (inner ++ [closing]).map (Marked.mk Lexicon.regexMode) ++
          flags.toList.map (Marked.mk defaultMode))
        [.terminal id] [⟨opening.first.span.start, closing.first.span.stop⟩]

/-- Blocks, one after another. -/
inductive Layout (arena : Arena) : List Marked → List Part → List Span → Prop
  /-- There is no block. -/
  | nil : Layout arena [] [] []
  /-- A block and those behind it. -/
  | cons {marked further : List Marked} {parts others : List Part} {literals more : List Span}
      (block : Block arena marked parts literals) (behind : Layout arena further others more) :
      Layout arena (marked ++ further) (parts ++ others) (literals ++ more)

namespace Layout

variable {arena : Arena} {marked further : List Marked} {parts others : List Part}
  {literals more : List Span}

theorem ofBlock (h : Block arena marked parts literals) : Layout arena marked parts literals := by
  simpa using cons h .nil

theorem append (h : Layout arena marked parts literals) (h' : Layout arena further others more) :
    Layout arena (marked ++ further) (parts ++ others) (literals ++ more) := by
  induction h with
  | nil => exact h'
  | cons block _ ih => simpa only [List.append_assoc] using cons block ih

end Layout

/-! ## Where a mode holds -/

/-- A token set lies in a stretch of the text, behind the sign that opens the stretch. -/
def Inside (marked : Marked) (span : Span) : Prop :=
  span.start < marked.span.start ∧ marked.span.stop ≤ span.stop

/-- Of some token sets those that lie in some stretches were scanned in a mode, and no others. -/
structure HoldsIn (mode : String) (marked : List Marked) (spans : List Span) : Prop where
  /-- The mode holds behind the opening sign of a stretch, up to its closing sign. -/
  mode_iff : ∀ one ∈ marked, one.mode = mode ↔ ∃ span ∈ spans, Inside one span
  /-- A stretch starts where one of the sets does. -/
  starts : ∀ span ∈ spans, ∃ one ∈ marked, span.start = one.span.start
  /-- A stretch stops where one of the sets does. -/
  stops : ∀ span ∈ spans, ∃ one ∈ marked, span.stop = one.span.stop

namespace HoldsIn

variable {mode : String} {marked further : List Marked} {spans others : List Span}

/-- A mode that no set was scanned in holds nowhere. -/
theorem nowhere (h : ∀ one ∈ marked, one.mode ≠ mode) : HoldsIn mode marked [] :=
  ⟨fun one hone => by simp [h one hone], by simp, by simp⟩

/-- Everything between an opening sign and a closing one that was scanned in a mode is where the mode
holds. -/
theorem enclosed {opening closing : TokenSet} {inner : List TokenSet} (hmode : mode ≠ defaultMode)
    (hordered : Ordered (⟨defaultMode, opening⟩ :: (inner ++ [closing]).map (Marked.mk mode))) :
    HoldsIn mode (⟨defaultMode, opening⟩ :: (inner ++ [closing]).map (Marked.mk mode))
      [⟨opening.first.span.start, closing.first.span.stop⟩] := by
  obtain ⟨hnonempty, hdisjoint⟩ := hordered
  rw [List.map_append, List.map_singleton] at *
  rw [← List.cons_append] at hdisjoint
  obtain ⟨hfront, -, hlast⟩ := List.pairwise_append.1 hdisjoint
  have hbehind := (List.pairwise_cons.1 (List.cons_append ▸ hdisjoint)).1
  have hopening := hnonempty _ (List.mem_cons_self ..)
  have hclosing := hnonempty ⟨mode, closing⟩ (by simp)
  refine ⟨List.forall_mem_cons.2 ⟨?_, fun one hone => ?_⟩, ?_, ?_⟩
  · simp [Inside, Marked.span, hmode.symm]
  · have hone' : one.mode = mode := by
      simp only [List.mem_append, List.mem_map, List.mem_singleton] at hone
      obtain ⟨-, -, rfl⟩ | rfl := hone <;> rfl
    have hstart := hbehind one hone
    have hstop : one.span.stop ≤ closing.first.span.stop := by
      rcases List.mem_append.1 hone with hinner | hone
      · have := hlast one (List.mem_cons_of_mem _ hinner) ⟨mode, closing⟩ (by simp)
        exact Nat.le_trans this (Nat.le_of_lt hclosing)
      · rw [List.mem_singleton.1 hone]
        rfl
    simp only [hone', true_iff, List.mem_singleton, exists_eq_left, Inside]
    exact ⟨Nat.lt_of_lt_of_le hopening hstart, hstop⟩
  · simp [Marked.span]
  · simp [Marked.span]

/-- Of token sets in order those in front do not lie in the stretches behind them, and the other way
round. -/
theorem append (h : HoldsIn mode marked spans) (h' : HoldsIn mode further others)
    (hordered : Ordered (marked ++ further)) :
    HoldsIn mode (marked ++ further) (spans ++ others) := by
  obtain ⟨hmarked, hfurther, hbetween⟩ := hordered.append
  refine ⟨List.forall_mem_append.2 ⟨fun one hone => ?_, fun one hone => ?_⟩,
    List.forall_mem_append.2 ⟨fun span hspan => ?_, fun span hspan => ?_⟩,
    List.forall_mem_append.2 ⟨fun span hspan => ?_, fun span hspan => ?_⟩⟩
  · have hnot : ¬ ∃ span ∈ others, Inside one span := by
      rintro ⟨span, hspan, hstart, -⟩
      obtain ⟨other, hother, hsame⟩ := h'.starts span hspan
      have := hbetween one hone other hother
      have := hmarked.nonempty one hone
      omega
    rw [h.mode_iff one hone]
    simp only [List.mem_append, or_and_right, exists_or, hnot, or_false]
  · have hnot : ¬ ∃ span ∈ spans, Inside one span := by
      rintro ⟨span, hspan, -, hstop⟩
      obtain ⟨other, hother, hsame⟩ := h.stops span hspan
      have := hbetween other hother one hone
      have := hfurther.nonempty one hone
      omega
    rw [h'.mode_iff one hone]
    simp only [List.mem_append, or_and_right, exists_or, hnot, false_or]
  · obtain ⟨one, hone, hsame⟩ := h.starts span hspan
    exact ⟨one, List.mem_append_left _ hone, hsame⟩
  · obtain ⟨one, hone, hsame⟩ := h'.starts span hspan
    exact ⟨one, List.mem_append_right _ hone, hsame⟩
  · obtain ⟨one, hone, hsame⟩ := h.stops span hspan
    exact ⟨one, List.mem_append_left _ hone, hsame⟩
  · obtain ⟨one, hone, hsame⟩ := h'.stops span hspan
    exact ⟨one, List.mem_append_right _ hone, hsame⟩

end HoldsIn

/-- The places of the code among some parts. -/
def codeSpans (parts : List Part) : List Span := (parts.filterMap Part.code?).map CodeSegment.span

/-- The modes of token sets are the three of the notation, and each of the two that are modes of
their own holds in its stretches. -/
structure Moded (marked : List Marked) (parts : List Part) (literals : List Span) : Prop where
  /-- The mode for code holds in code. -/
  code : HoldsIn Lexicon.codeMode marked (codeSpans parts)
  /-- The mode for regular expressions holds between their slashes. -/
  regex : HoldsIn Lexicon.regexMode marked literals
  /-- There is no other mode but the default one. -/
  known : ∀ one ∈ marked,
    one.mode = Lexicon.codeMode ∨ one.mode = Lexicon.regexMode ∨ one.mode = defaultMode

theorem codeMode_ne_regexMode : Lexicon.codeMode ≠ Lexicon.regexMode := by decide

/-- A single token set of the notation is in the default mode. -/
theorem moded_default (sets : List TokenSet) (id : Option TerminalId) :
    Moded (sets.map (Marked.mk defaultMode)) (id.toList.map .terminal) [] := by
  have hcode : codeSpans (id.toList.map Part.terminal) = [] := by cases id <;> rfl
  refine ⟨hcode ▸ .nowhere ?_, .nowhere ?_, ?_⟩
  · simpa using fun _ _ => Parser.codeMode_ne.symm
  · simpa using fun _ _ => Parser.regexMode_ne.symm
  · simp

theorem Moded.append {marked further : List Marked} {parts others : List Part}
    {literals more : List Span} (h : Moded marked parts literals) (h' : Moded further others more)
    (hordered : Ordered (marked ++ further)) :
    Moded (marked ++ further) (parts ++ others) (literals ++ more) := by
  refine ⟨?_, h.regex.append h'.regex hordered, List.forall_mem_append.2 ⟨h.known, h'.known⟩⟩
  rw [codeSpans, List.filterMap_append, List.map_append]
  exact h.code.append h'.code hordered

/-- Each mode holds in the block of its own. -/
theorem Block.moded {arena : Arena} {marked : List Marked} {parts : List Part} {literals : List Span}
    (h : Block arena marked parts literals) (hordered : Ordered marked) :
    Moded marked parts literals := by
  cases h with
  | sign set => exact moded_default [set] none
  | @plain id terminal set => exact moded_default [set] (some id)
  | @code segment opening closing inner opens closes span_eq text_eq =>
    refine ⟨?_, .nowhere ?_, ?_⟩
    · have hspans : codeSpans [.code segment] = [segment.span] := rfl
      rw [hspans, span_eq]
      exact .enclosed Parser.codeMode_ne hordered
    · simp [Parser.regexMode_ne.symm, codeMode_ne_regexMode, or_imp, forall_and]
    · simp [or_imp, forall_and]
  | @literal id regexSet opening closing inner flags get opens closes source_eq flags_eq touches =>
    obtain ⟨hslashes, -, -⟩ := hordered.append
    have hslashesModed : Moded (⟨defaultMode, opening⟩ ::
        (inner ++ [closing]).map (Marked.mk Lexicon.regexMode)) [.terminal id]
        [⟨opening.first.span.start, closing.first.span.stop⟩] := by
      have hspans : codeSpans [.terminal id] = [] := rfl
      refine ⟨hspans ▸ .nowhere ?_, .enclosed Parser.regexMode_ne hslashes, ?_⟩
      · simp [Parser.codeMode_ne.symm, codeMode_ne_regexMode.symm, or_imp, forall_and]
      · simp [or_imp, forall_and]
    exact hslashesModed.append (moded_default flags.toList none) hordered

/-- Each mode holds in the blocks of its own. -/
theorem Layout.moded {arena : Arena} {marked : List Marked} {parts : List Part}
    {literals : List Span} (h : Layout arena marked parts literals) (hordered : Ordered marked) :
    Moded marked parts literals := by
  induction h with
  | nil => exact moded_default [] none
  | cons block behind ih =>
    obtain ⟨hfirst, hfurther, -⟩ := hordered.append
    exact (block.moded hfirst).append (ih hfurther) hordered

/-! ## Reading blocks -/

namespace Parser

variable {parser after : Parser} {text : List Char}

/-- All tokens of a set are the same stretch of the text. -/
theorem Stands.first_eq {entered : List String} {set : TokenSet} (h : parser.Stands entered text)
    (hcurrent : parser.scanner.current = some set) {token : Token} (htoken : token ∈ set.toList) :
    token.span = set.first.span ∧ token.text = set.first.text := by
  have hfirst := h.at_text.first
  rw [hcurrent] at hfirst
  obtain ⟨gap, front, -, -, -, -, -, htokens⟩ := hfirst.cut
  obtain ⟨hspan, htext⟩ := htokens token htoken
  exact ⟨hspan, htext.trans (htokens set.first (List.mem_cons_self ..)).2.symm⟩

/-- Entering a mode leaves the current token set alone. -/
theorem current_enter (parser : Parser) (mode : String) :
    (parser.enter mode).scanner.current = parser.scanner.current := by
  obtain ⟨told, henter⟩ := parser.enter_eq mode
  rw [henter]
  rfl

theorem current_leave (parser : Parser) : parser.leave.scanner.current = parser.scanner.current := by
  simp only [leave, Scanner.popMode]
  split <;> rfl

/-- What is consumed stretches from the first token set to the last. -/
theorem Marks.spanFrom_eq {entered entered' : List String} {text' : List Char} {first last : Marked}
    {inner : List Marked} (h : parser.Marks text (first :: inner ++ [last]) entered' after text')
    (hstands : parser.Stands entered text) (hcurrent : parser.scanner.current = some first.set) :
    after.scanner.previousEnd = last.span.stop ∧
      after.spanFrom parser.start = ⟨first.span.start, last.span.stop⟩ := by
  have hscanned := h.scanned _ hstands.table
  have hstop : after.scanner.previousEnd = last.span.stop :=
    hscanned.stop_eq (by rw [List.getLast?_append_of_ne_nil _ (by simp)]; rfl)
  have hfirst : first ∈ first :: inner ++ [last] := List.mem_cons_self ..
  have hnonempty := hscanned.ordered.nonempty first hfirst
  have hle : first.span.stop ≤ after.scanner.previousEnd := (hscanned.between.2 first hfirst).2
  have hstart : parser.start = first.span.start := start_eq hcurrent
  refine ⟨hstop, ?_⟩
  rw [spanFrom, hstart, Nat.max_eq_left (Nat.le_of_lt (Nat.lt_of_lt_of_le hnonempty hle)), hstop]

/-- Between two signs that enter and leave a mode, everything is scanned in this mode. -/
theorem Stands.marks_enclosed {inside behind : Parser} {mode rule rule' : String}
    {opening closing : Token} {inner : List TokenSet} (h : parser.Stands [] text)
    (hmode : mode ≠ defaultMode) (hopening : (parser.enter mode).Takes [rule] opening inside)
    (hinner : inside.SkipsAll inner behind) (hclosing : behind.leave.Takes [rule'] closing after) :
    ∃ openingSet closingSet text', Is openingSet rule ∧ Is closingSet rule' ∧
      parser.Marks text (⟨defaultMode, openingSet⟩ :: (inner ++ [closingSet]).map (Marked.mk mode)) []
        after text' ∧
      after.scanner.source.slice? ⟨inside.scanner.previousEnd, behind.start⟩ =
        some (String.ofList (textOfSets inner)) ∧
      after.spanFrom parser.start = ⟨openingSet.first.span.start, closingSet.first.span.stop⟩ ∧
      after.scanner.previousEnd = closingSet.first.span.stop := by
  obtain ⟨openingSet, hskipsOpening, hopens⟩ := hopening.offers
  obtain ⟨closingSet, hskipsClosing, hcloses⟩ := hclosing.offers
  have hinside := h.marks_enter hskipsOpening
  obtain ⟨text', hgathers, hmarks⟩ := hinner.marks hinside.consumes.stands hmode
  have hafter := hgathers.consumes.stands.marks_leave hskipsClosing
  have hwhole := (hinside.trans hmarks).trans hafter
  have hcurrentOpening := (current_enter ..).symm.trans hskipsOpening.1
  have hcurrentClosing := (current_leave ..).symm.trans hskipsClosing.1
  have hslice := hgathers.slice_eq hinside.consumes.stands hmode hcurrentClosing
  obtain ⟨hstop, hspan⟩ := hwhole.spanFrom_eq h hcurrentOpening
  refine ⟨openingSet, closingSet, behind.scanner.place.rest, ⟨opening, hopens⟩, ⟨closing, hcloses⟩,
    ?_, ?_, hspan, hstop⟩
  · simpa using hwhole
  · rwa [hafter.consumes.source_eq, hgathers.consumes.source_eq]

/-- A piece of code is a block. -/
theorem codeSegment_block {code : CodeSegment} (h : parser.Stands [] text)
    (hgives : (codeSegment parser).Gives code after) :
    ∃ marked text', parser.Marks text marked [] after text' ∧
      ∀ arena, Block arena marked [.code code] [] := by
  obtain ⟨opening, inside, hopening, behind, htokens, closing, hclosing, hslice, hspan⟩ :=
    codeSegment_gives.1 hgives
  obtain ⟨inner, hinner⟩ := codeTokens_skipsAll htokens
  obtain ⟨openingSet, closingSet, text', hopens, hcloses, hmarks, htext, hwhole, -⟩ :=
    h.marks_enclosed codeMode_ne hopening hinner hclosing
  rw [htext] at hslice
  have htext : code.text.toList = textOfSets inner := by
    rw [← Option.some.inj hslice, String.toList_ofList]
  exact ⟨_, text', hmarks, fun _ => .code hopens hcloses (hspan.trans hwhole) htext⟩

/-- Flags are a name that touches what was consumed last. -/
theorem regexFlags_marks {flags : Option Token} (h : parser.Stands [] text)
    (hgives : (regexFlags parser).Gives flags after) :
    ∃ (names : Option TokenSet) (text' : List Char),
      parser.Marks text (names.toList.map (Marked.mk defaultMode)) [] after text' ∧
      ((flags.map Token.text).getD "").toList = textOfSets names.toList ∧
      ∀ name ∈ names, Is name Lexicon.ident ∧
        name.first.span.start = parser.scanner.previousEnd := by
  obtain ⟨token, htoken, ⟨htouches, name, hname, rfl⟩ | ⟨-, rfl, rfl⟩⟩ | ⟨-, rfl, rfl⟩ :=
    regexFlags_gives.1 hgives
  · obtain ⟨set, hskips, hoffers⟩ := hname.offers
    obtain rfl : name = token := Option.some.inj (hname.matching?_eq.symm.trans htoken)
    obtain ⟨hspan, htext⟩ := h.first_eq hskips.1 hoffers.mem
    refine ⟨some set, _, h.marks_skip hskips, by simp [textOfSets, htext], ?_⟩
    rintro _ ⟨⟩
    exact ⟨⟨name, hoffers⟩, by rw [← hspan, htouches]⟩
  · exact ⟨none, text, .refl h, rfl, by simp⟩
  · exact ⟨none, text, .refl h, rfl, by simp⟩

/-- A regular expression between slashes is a block. -/
theorem regexLiteral_block {set : RegexSet} (h : parser.Stands [] text)
    (hgives : (regexLiteral parser).Gives set after) :
    ∃ marked literals text', parser.Marks text marked [] after text' ∧
      RegexSet.compile set.source set.flags = .ok set ∧
      ∀ arena id, arena.get? id = some (.set set) → Block arena marked [.terminal id] literals := by
  obtain ⟨opening, inside, hopening, behind, hdisjunction, -, closing, atFlags, hclosing, source,
    hslice, flags, hflags, hcompiled⟩ := regexLiteral_gives.1 hgives
  obtain ⟨inner, hinner⟩ := regexDisjunction_skipsAll hdisjunction
  obtain ⟨openingSet, closingSet, text', hopens, hcloses, hmarks, htext, -, hstop⟩ :=
    h.marks_enclosed regexMode_ne hopening hinner hclosing
  obtain ⟨names, text'', hnames, hletters, htouches⟩ := regexFlags_marks hmarks.consumes.stands hflags
  obtain ⟨hsource, hflagsText⟩ := RegexSet.compile_self hcompiled
  rw [htext] at hslice
  have htext : set.source.toList = textOfSets inner := by
    rw [hsource, ← Option.some.inj hslice, String.toList_ofList]
  rw [← hsource, ← hflagsText] at hcompiled
  rw [← hflagsText] at hletters
  rw [hstop] at htouches
  exact ⟨_, _, text'', hmarks.trans hnames, hcompiled, fun _ _ hget =>
    .literal hget hopens hcloses htext hletters htouches⟩

/-- Where a terminal is added behind marked token sets, the arena has it. -/
theorem Marks.intern {marked : List Marked} {text' : List Char} {terminal : Terminal}
    {id : TerminalId} {middle : Parser} (h : parser.Marks text marked [] middle text')
    (hproper : parser.arena.Proper) (hintern : (middle.intern terminal).Gives id after)
    (hset : ∀ set, terminal = .set set → RegexSet.compile set.source set.flags = .ok set) :
    parser.Marks text marked [] after text' ∧ after.arena.get? id = some terminal := by
  obtain ⟨hconsumes, hget⟩ := h.consumes.intern hproper hintern hset
  obtain ⟨-, rfl⟩ := gives_intern.1 hintern
  exact ⟨⟨hconsumes, h.scanned⟩, hget⟩

/-- A terminal is a block. -/
theorem terminal_block {id : TerminalId} (h : parser.Stands [] text)
    (hproper : parser.arena.Proper) (hgives : (terminal parser).Gives id after) :
    ∃ marked literals text', parser.Marks text marked [] after text' ∧
      ∀ arena, after.arena.Within arena → Block arena marked [.terminal id] literals := by
  obtain ⟨token, middle, htoken, hintern⟩ | ⟨-, ⟨token, middle, htoken, hintern⟩ |
    ⟨-, ⟨token, middle, htoken, hintern⟩ | ⟨-, -, set, middle, hset, hintern⟩⟩⟩ :=
    terminal_gives.1 hgives
  · obtain ⟨set, hskips, hoffers⟩ := htoken.offers
    obtain ⟨hafter, hget⟩ := (h.marks_skip hskips).intern hproper hintern nofun
    exact ⟨_, [], _, hafter, fun _ hwithin => .plain (hwithin.get? hget) (.ident hoffers)⟩
  · obtain ⟨set, hskips, hoffers⟩ := htoken.offers
    obtain ⟨hafter, hget⟩ := (h.marks_skip hskips).intern hproper hintern nofun
    exact ⟨_, [], _, hafter, fun _ hwithin => .plain (hwithin.get? hget)
      (.number hoffers (h.numberOf_eq hskips.1 hoffers))⟩
  · obtain ⟨set, hskips, hoffers⟩ := htoken.offers
    obtain ⟨hafter, hget⟩ := (h.marks_skip hskips).intern hproper hintern nofun
    exact ⟨_, [], _, hafter, fun _ hwithin => .plain (hwithin.get? hget)
      (.string hoffers (h.textOf_eq hskips.1 hoffers))⟩
  · obtain ⟨marked, literals, text', hmarks, hcompiled, hblock⟩ := regexLiteral_block h hset
    obtain ⟨hafter, hget⟩ := hmarks.intern hproper hintern (by rintro _ ⟨⟩; exact hcompiled)
    exact ⟨marked, literals, text', hafter, fun arena hwithin => hblock arena id (hwithin.get? hget)⟩

/-! ## Reading a whole text -/

/-- Between two states of a parser, blocks are consumed that make up parts of a tree. -/
def LaysOut (parser : Parser) (parts : List Part) (after : Parser) : Prop :=
  ∀ text, parser.Stands [] text → parser.arena.Proper →
    ∃ marked literals text', parser.Marks text marked [] after text' ∧
      ∀ arena, after.arena.Within arena → Layout arena marked parts literals

/-- A token of the notation is a block. -/
theorem takes_laysOut {rules : List String} {token : Token} (htakes : parser.Takes rules token after) :
    parser.LaysOut [] after := by
  intro text h _
  obtain ⟨set, hskips, -⟩ := htakes.skips
  exact ⟨_, _, _, h.marks_skip hskips, fun _ _ => .ofBlock (.sign set)⟩

/-- What is consumed is made up of blocks, one step after another. -/
theorem assembles_laysOut : Assembles LaysOut where
  refl _ text h _ := ⟨[], [], text, .refl h, fun _ _ => .nil⟩
  trans hfirst hsecond text h hproper := by
    obtain ⟨marked, literals, text', hmiddle, hlayout⟩ := hfirst text h hproper
    obtain ⟨further, more, text'', hafter, hlayout'⟩ :=
      hsecond text' hmiddle.consumes.stands (hmiddle.consumes.proper hproper)
    exact ⟨_, _, text'', hmiddle.trans hafter, fun arena hwithin =>
      (hlayout arena (hafter.consumes.within.trans hwithin)).append (hlayout' arena hwithin)⟩
  takes := takes_laysOut
  code hgives text h _ := by
    obtain ⟨marked, text', hmarks, hblock⟩ := codeSegment_block h hgives
    exact ⟨marked, [], text', hmarks, fun arena _ => .ofBlock (hblock arena)⟩
  terminal hgives text h hproper := by
    obtain ⟨marked, literals, text', hmarks, hblock⟩ := terminal_block h hproper hgives
    exact ⟨marked, literals, text', hmarks, fun arena hwithin => .ofBlock (hblock arena hwithin)⟩
  tell parser detail message text h _ :=
    ⟨[], [], text, ⟨h.tell detail message, fun _ _ => .nil⟩, fun _ _ => .nil⟩

/-- A whole grammar is made up of blocks, from the keyword through the closing brace. -/
theorem wholeGrammar_laysOut {grammar : Grammar} (h : parser.Stands [] text)
    (hproper : parser.arena.Proper) (hgives : (wholeGrammar parser).Gives grammar after) :
    ∃ first inner last literals text',
      parser.Marks text (first :: inner ++ [last]) [] after text' ∧
      Layout grammar.arena (first :: inner ++ [last]) (partsOfProductions grammar.productions)
        literals ∧
      Is first.set Lexicon.keyword ∧ Is last.set "\x7d" ∧
      grammar.span = ⟨first.span.start, last.span.stop⟩ ∧ after.scanner.current = none := by
  obtain ⟨keyword, atName, hkeyword, name, atOpening, hname, opening, inside, hopening, atClosing,
    hproductions, -, closing, hclosing, hend, -, harena, hspan⟩ := wholeGrammar_gives.1 hgives
  obtain ⟨keywordSet, hskipsKeyword, hstarts⟩ := hkeyword.offers
  have hatName := h.marks_skip hskipsKeyword
  have hinner : atName.LaysOut (partsOfProductions grammar.productions) atClosing :=
    assembles_laysOut.taken hname (assembles_laysOut.taken hopening
      (assembles_laysOut.productions hproductions))
  obtain ⟨inner, literals, text', hatClosing, hlayout⟩ :=
    hinner _ hatName.consumes.stands (hatName.consumes.proper hproper)
  obtain ⟨closingSet, hskipsClosing, hcloses⟩ := hclosing.offers
  have hafter := hatClosing.consumes.stands.marks_skip hskipsClosing
  have hwhole := (hatName.trans hatClosing).trans hafter
  have hwithin : atClosing.arena.Within grammar.arena := by
    rw [harena]
    exact hafter.consumes.within
  have hsigns := Layout.append (.ofBlock (.sign keywordSet))
    ((hlayout _ hwithin).append (.ofBlock (.sign closingSet)))
  refine ⟨⟨defaultMode, keywordSet⟩, inner, ⟨defaultMode, closingSet⟩, literals, _, hwhole,
    by simpa using hsigns, ⟨keyword, hstarts⟩, ⟨closing, hcloses⟩, ?_,
    by simpa [Scanner.atEnd] using hend⟩
  rw [hspan]
  exact (hwhole.spanFrom_eq h hskipsKeyword.1).2

end Parser

/-- How the marked token sets of a grammar lie in its text, where `literals` are the places of its
regular expressions, from slash to slash. -/
structure LaidOut (grammar : Grammar) (source : Source) (marked : List Marked)
    (literals : List Span) : Prop where
  /-- The text is cut into the token sets, each of them scanned in its mode. -/
  scanned : ∃ table stop, Lexicon.table = .ok table ∧ Scanned table (0, source.chars) marked stop
  /-- They are the blocks of the parts of the tree. -/
  layout : Layout grammar.arena marked (partsOfProductions grammar.productions) literals
  /-- They are not empty, disjoint and in order. -/
  ordered : Ordered marked
  /-- All tokens of a set stand in the same place. -/
  together : ∀ one ∈ marked, ∀ token ∈ one.set.toList, token.span = one.span
  /-- The first one is the keyword. -/
  first : ∃ one, marked.head? = some one ∧ Is one.set Lexicon.keyword ∧
    one.span.start = grammar.span.start
  /-- The last one is the closing brace. -/
  last : ∃ one, marked.getLast? = some one ∧ Is one.set "\x7d" ∧ one.span.stop = grammar.span.stop
  /-- Before, between and behind them there are blanks and whole comments only. -/
  gaps : OnlyGaps source 0 marked
  /-- In code and in regular expressions there is nothing between them. -/
  unbroken : marked.IsChain fun left right =>
    (∃ span ∈ grammar.codes.map CodeSegment.span ++ literals,
      span.start ≤ left.span.start ∧ right.span.stop ≤ span.stop) →
    left.span.stop = right.span.start
  /-- Those behind the opening brace of code, up to the brace that closes it, were scanned as code. -/
  code_iff : ∀ one ∈ marked, one.mode = Lexicon.codeMode ↔
    ∃ code ∈ grammar.codes, Inside one code.span
  /-- Those behind the opening slash of a regular expression, up to its closing slash, were scanned as
  regular expressions. -/
  regex_iff : ∀ one ∈ marked, one.mode = Lexicon.regexMode ↔ ∃ span ∈ literals, Inside one span
  /-- All others were scanned in the default mode. -/
  default_iff : ∀ one ∈ marked, one.mode = defaultMode ↔
    (¬ ∃ code ∈ grammar.codes, Inside one code.span) ∧ ¬ ∃ span ∈ literals, Inside one span

/-- A text that is cut into the blocks of a grammar, from its keyword through its closing brace, is
laid out. -/
theorem laidOut_of_scanned {table : RuleTable} {source : Source} {grammar : Grammar}
    {first last : Marked} {inner : List Marked} {literals : List Span} {stop : Nat × List Char}
    (htable : Lexicon.table = .ok table)
    (hscanned : Scanned table (0, source.chars) (first :: inner ++ [last]) stop)
    (hlayout : Layout grammar.arena (first :: inner ++ [last])
      (partsOfProductions grammar.productions) literals)
    (hstarts : Is first.set Lexicon.keyword) (hcloses : Is last.set "\x7d")
    (hspan : grammar.span = ⟨first.span.start, last.span.stop⟩) (hend : Gap [] stop.2) :
    LaidOut grammar source (first :: inner ++ [last]) literals := by
  have hordered := hscanned.ordered
  obtain ⟨hcode, hregex, hknown⟩ := hlayout.moded hordered
  have hcodes : codeSpans (partsOfProductions grammar.productions) =
      grammar.codes.map CodeSegment.span := by
    rw [codeSpans, codes_partsOfProductions]
  rw [hcodes] at hcode
  have hcode_iff (one) (hone : one ∈ first :: inner ++ [last]) :
      one.mode = Lexicon.codeMode ↔ ∃ code ∈ grammar.codes, Inside one code.span := by
    simp only [hcode.mode_iff one hone, List.mem_map, exists_exists_and_eq_and]
  have hregex_iff := hregex.mode_iff
  refine ⟨⟨table, stop, htable, hscanned⟩, hlayout, hordered,
    fun one hone token htoken => hscanned.together hone htoken, ⟨first, rfl, hstarts, by rw [hspan]⟩,
    ⟨last, ?_, hcloses, by rw [hspan]⟩, ?_, ?_, hcode_iff, hregex_iff, fun one hone => ?_⟩
  · rw [List.getLast?_append_of_ne_nil _ (by simp)]
    rfl
  · exact onlyGaps_of_scanned htable hscanned hend (List.nil_append _).symm rfl
  · refine (unbroken_of_scanned htable hscanned).2.imp_of_mem_imp ?_
    rintro left right hleft hright ⟨hle, hunbroken⟩ ⟨span, hspan, hstart, hstop⟩
    have hnonempty := hordered.nonempty left hleft
    have hinside : Inside right span := ⟨by omega, hstop⟩
    refine hunbroken ?_
    rcases List.mem_append.1 hspan with hspan | hspan
    · rw [(hcode.mode_iff right hright).2 ⟨span, hspan, hinside⟩]
      exact Parser.codeMode_ne
    · rw [(hregex_iff right hright).2 ⟨span, hspan, hinside⟩]
      exact Parser.regexMode_ne
  · rw [← hcode_iff one hone, ← hregex_iff one hone]
    obtain hmode | hmode | hmode := hknown one hone
    · simp [hmode, Parser.codeMode_ne]
    · simp [hmode, Parser.regexMode_ne]
    · simp [hmode, Parser.codeMode_ne.symm, Parser.regexMode_ne.symm]

/-- Where the token sets are kept, a parser reads the grammar from the start of the text, and those
that it keeps are given. -/
theorem run_of_parseWithTokens {source : Source} {grammar : Grammar} {sets : List TokenSet}
    (h : (parseWithTokens source).result = .ok (grammar, sets)) :
    ∃ parser after, parser.Stands [] source.chars ∧ parser.scanner.previousEnd = 0 ∧
      parser.arena = .empty ∧ parser.scanner.recorded = some parser.scanner.current.toList ∧
      (Parser.wholeGrammar parser).Gives grammar after ∧
      (after.scanner.recorded.getD []).reverse = sets := by
  rw [result_parseWithTokens] at h
  obtain ⟨found, hrun⟩ : ∃ found, (run source Scanner.record).1 = found := ⟨_, rfl⟩
  rw [hrun] at h
  cases found with
  | error error => contradiction
  | ok found =>
    cases h
    obtain ⟨table, scanner, after, htable, hcreate, hgives, hafter⟩ := run_eq_ok_iff.1 hrun
    obtain ⟨hstands, hrecorded⟩ := Parser.stands_create .empty htable hcreate
    have hready : (Parser.mk scanner.record .empty).Stands [] source.chars :=
      ⟨hstands.table, hstands.entered_eq,
        ⟨hstands.at_text.first, hstands.at_text.suffix, hstands.at_text.offset_eq⟩⟩
    refine ⟨⟨scanner.record, .empty⟩, after, hready, ?_, rfl, ?_, hgives, ?_⟩
    · rw [Scanner.create_eq] at hcreate
      have hanchored : Anchored (Scanner.initial table source).rules :=
        Lexicon.anchored_mode htable defaultMode
      obtain ⟨-, -, -, -, hprevious, -⟩ := Scanner.advance_first hanchored hcreate
      exact hprevious
    · simp [Scanner.record, hrecorded]
    · rw [← hafter, Scanner.takeRecorded]

/-- What a parser consumes up to the end of the text are the token sets that are given. -/
theorem gives_of_parseWithTokens {source : Source} {grammar : Grammar} {sets : List TokenSet}
    (h : (parseWithTokens source).result = .ok (grammar, sets)) :
    ∃ parser after, parser.Stands [] source.chars ∧ parser.scanner.previousEnd = 0 ∧
      parser.arena.Proper ∧ (Parser.wholeGrammar parser).Gives grammar after ∧
      ∀ entered text consumed, parser.Consumes source.chars consumed entered after text →
        after.scanner.current = none → consumed = sets := by
  obtain ⟨parser, after, hstands, hprevious, harena, hrecorded, hgives, rfl⟩ :=
    run_of_parseWithTokens h
  refine ⟨parser, after, hstands, hprevious, harena ▸ Arena.proper_empty, hgives,
    fun entered text consumed hconsumes hend => ?_⟩
  have hkept := hconsumes.recorded [] (by simpa using hrecorded)
  rw [hkept, hend]
  simp

/-- **The layout of a text.** A text is parsed to the same grammar, or fails the same way, whether the
token sets are kept or not; and where they are kept, they lie in the text as the grammar says, each of
them scanned in the mode that holds there. -/
theorem tokens_laid_out (source : Source) :
    (parse source).result = (parseWithTokens source).result.map Prod.fst ∧
    ∀ grammar sets, (parseWithTokens source).result = .ok (grammar, sets) →
      ∃ marked literals, marked.map Marked.set = sets ∧
        LaidOut grammar source marked literals := by
  refine ⟨result_parse_eq source, fun grammar sets h => ?_⟩
  obtain ⟨parser, after, hstands, hstart, hproper, hgives, hsets⟩ := gives_of_parseWithTokens h
  obtain ⟨first, inner, last, literals, text, hmarks, hlayout, hstarts, hcloses, hspan, hend⟩ :=
    Parser.wholeGrammar_laysOut hstands hproper hgives
  have hscanned := hmarks.scanned _ hstands.table
  rw [hstart] at hscanned
  refine ⟨first :: inner ++ [last], literals, hsets _ _ _ hmarks.consumes hend,
    laidOut_of_scanned hstands.table hscanned hlayout hstarts hcloses hspan ?_⟩
  -- Behind the closing brace the scanner came to the end of the text.
  have hfirst := hmarks.consumes.stands.at_text.first
  generalize after.scanner.previousEnd = offset at hfirst
  generalize after.scanner.spot = spot at hfirst
  rw [hend] at hfirst
  cases hfirst with
  | atEnd passed =>
    exact (gap_of_passed hmarks.consumes.stands.table passed (unpassable_nil _)).1

/-- A text with code and with a regular expression is laid out. -/
theorem tokens_laid_out_small : ∃ grammar sets marked literals,
    (parseWithTokens (.ofString "grammar G { a : {p} x = /[b]/i ; }")).result = .ok (grammar, sets) ∧
      sets.length = 18 ∧ marked.map Marked.set = sets ∧
      LaidOut grammar (.ofString "grammar G { a : {p} x = /[b]/i ; }") marked literals := by
  obtain ⟨parsed, hparsed⟩ : ∃ parsed,
      (parseWithTokens (.ofString "grammar G { a : {p} x = /[b]/i ; }")).result = parsed := ⟨_, rfl⟩
  have hcount : (parseWithTokens (.ofString "grammar G { a : {p} x = /[b]/i ; }")).result.toOption.map
      (fun found => found.2.length) = some 18 := by
    rw [result_parseWithTokens_words]
    decide +kernel
  rw [hparsed] at hcount
  cases parsed with
  | error error => simp [Except.toOption] at hcount
  | ok found =>
    obtain ⟨grammar, sets⟩ := found
    obtain ⟨marked, literals, hsets, hlaid⟩ := (tokens_laid_out _).2 grammar sets hparsed
    exact ⟨grammar, sets, marked, literals, hparsed, by simpa [Except.toOption] using hcount, hsets,
      hlaid⟩

end GrammarLang.Grammar

import GrammarLang.Proofs.Grammar.RegexFollowing
import GrammarLang.Proofs.Grammar.Sites
import GrammarLang.Proofs.Grammar.SpanTree

/-! # Regular expressions end at the right slash

A regular expression is read up to a slash (**`Parser.ReadsToSlash`**), and that is where it ends. The
parser goes on from there to the closing brace of the grammar (**`Parser.Goes`**), so the expression
ends there anyway.

In a parsed grammar text every set of texts is written so, wherever it occurs: it is **`Delimited`** by
slashes among the token sets of the text (**`sets_end_at_slashes`**). -/

namespace GrammarLang.Grammar

open GrammarLang.Scan GrammarLang.Text

/-! ## Where a regular expression is read -/

namespace Parser

variable {parser middle after : Parser} {text : List Char}

/-- How far the parser has come is told by what is left of the text. -/
theorem Consumes.previousEnd_add {sets : List TokenSet} {entered entered' : List String}
    {text' : List Char} (hconsumes : parser.Consumes text sets entered' after text')
    (h : parser.Stands entered text) :
    after.scanner.previousEnd + byteSize text' = parser.scanner.previousEnd + byteSize text := by
  rw [h.at_text.offset_eq, hconsumes.stands.at_text.offset_eq, hconsumes.source_eq]

/-- An expression is read between two slashes, and some text is left behind the second of them. -/
structure ReadsToSlash (parser : Parser) (text expression : List Char) (opening : TokenSet)
    (inner : List TokenSet) (slash : TokenSet) (rest : List Char) (after : Parser) : Prop where
  /-- The parser stands at the first slash. -/
  current : parser.scanner.current = some opening
  /-- It is one. -/
  opens : Is opening "/"
  /-- Behind a gap, the text is the expression between slashes. -/
  gap_eq : behindGap text = '/' :: (expression ++ '/' :: rest)
  /-- The expression ends at the second slash. -/
  ends : EndsAtSlash (parser.scanner.table.rulesInMode Lexicon.regexMode) (parser.start + 1) expression
    rest inner slash
  /-- The token sets are consumed, and maybe flags behind them. -/
  consumes : ∃ flags text', parser.Consumes text (opening :: inner ++ slash :: flags) [] after text' ∧
    text' <:+ rest

/-- A regular expression is read up to the slash that ends it. -/
theorem Stands.regexLiteral_readsToSlash {set : RegexSet} (h : parser.Stands [] text)
    (hsees : parser.sees "/" = true) (hgives : (regexLiteral parser).Gives set after) :
    ∃ opening inner slash rest,
      parser.ReadsToSlash text set.source.toList opening inner slash rest after := by
  obtain ⟨opening, inside, hopening, behind, hinner, hseesBehind, closing, atFlags, hclosing, source,
    hsource, flags, hflags, hcompiled⟩ := regexLiteral_gives.1 hgives
  obtain ⟨openingSet, hskipsOpening, hopens⟩ := hopening.offers
  have hcurrent : parser.scanner.current = some openingSet :=
    (current_enter ..).symm.trans hskipsOpening.1
  have hinside := h.skip_enter hskipsOpening
  obtain ⟨inner, hskips, henclosed⟩ := regexDisjunction_encloses hinner _ _ hinside.stands
  obtain ⟨text', hgathers, hcut⟩ := hskips.munch hinside.stands regexMode_ne
  have hbehind := hgathers.consumes.stands
  obtain rfl := hbehind.slash_inside hseesBehind
  obtain ⟨closingSet, hskipsClosing, hcloses⟩ := hclosing.offers
  have hcurrentBehind : behind.scanner.current = some closingSet :=
    (current_leave ..).symm.trans hskipsClosing.1
  have hatFlags := hbehind.skip_leave hskipsClosing
  obtain ⟨names, text', hnames, -⟩ := regexFlags_marks hatFlags.stands hflags
  -- What stands between the slashes is the expression.
  have hslice := hgathers.slice_eq hinside.stands regexMode_ne hcurrentBehind
  rw [hatFlags.source_eq, hgathers.consumes.source_eq, hslice, Option.some.injEq] at hsource
  have hexpression : set.source.toList = textOfSets inner := by
    rw [(RegexSet.compile_self hcompiled).1, ← hsource, String.toList_ofList]
  have hplace : parser.scanner.place.rest =
      set.source.toList ++ '/' :: behind.scanner.place.rest := by
    rw [hexpression]
    exact hgathers.text_eq
  -- The places are told by what is left of the text behind them.
  have hstart := h.start_add_size hcurrent
  rw [(h.behindGap_of_slash hsees).1, hplace, ← h.at_text.offset_eq] at hstart
  have hinsideOffset := hinside.previousEnd_add h
  have hbehindOffset := hgathers.consumes.previousEnd_add hinside.stands
  rw [hplace] at hinsideOffset hbehindOffset
  have hone : '/'.utf8Size = 1 := rfl
  simp only [byteSize_cons, byteSize_append, hone] at hstart hinsideOffset hbehindOffset
  have hinsideEnd : inside.scanner.previousEnd = parser.start + 1 := by omega
  have hbehindEnd : behind.scanner.previousEnd =
      parser.start + 1 + byteSize set.source.toList := by omega
  have htable : inside.scanner.table = parser.scanner.table :=
    Except.ok.inj (hinside.stands.table.symm.trans h.table)
  have htable' : behind.scanner.table = parser.scanner.table :=
    Except.ok.inj (hbehind.table.symm.trans h.table)
  rw [htable, hinsideEnd, hplace, hbehindEnd] at hcut
  have hfirst := hbehind.at_text.first
  rw [hcurrentBehind, htable', hbehindEnd] at hfirst
  obtain ⟨_, hslash, -⟩ := (word_regexSlash h.table behind.scanner.place.rest).first h.table .nil
    (parser.start + 1 + byteSize set.source.toList)
  rw [(hfirst.unique hslash).2] at hfirst
  refine ⟨openingSet, inner, closingSet, behind.scanner.place.rest, hcurrent, ⟨opening, hopens⟩, ?_,
    ⟨hcut, hfirst, ⟨closing, hcloses⟩, henclosed⟩,
    (names.toList.map (Marked.mk defaultMode)).map Marked.set, text', ?_, hnames.consumes.suffix⟩
  · rw [(h.behindGap_of_slash hsees).1, hplace]
  · have := ((hinside.trans hgathers.consumes).trans hatFlags).trans hnames.consumes
    simpa using this

/-! ## On the way through a grammar -/

/-- Outside of code and regular expressions, the parser consumes token sets of its text, and spends
them. -/
structure Goes (parser after : Parser) : Prop where
  /-- The token sets are consumed. -/
  consumes : ∀ text, parser.Stands [] text → parser.arena.Proper →
    ∃ sets text', parser.Consumes text sets [] after text'
  /-- They are spent. -/
  spends : ∃ count, parser.Spends count after

theorem stepwise_goes : Stepwise Goes where
  refl parser := ⟨fun text h _ => ⟨[], text, .refl h⟩, (stepwise_proceeds.refl parser).2⟩
  trans hfirst hsecond := by
    refine ⟨fun text h hproper => ?_, ?_⟩
    · obtain ⟨sets, text', hmiddle⟩ := hfirst.consumes text h hproper
      obtain ⟨further, text'', hafter⟩ := hsecond.consumes text' hmiddle.stands (hmiddle.proper hproper)
      exact ⟨_, text'', hmiddle.trans hafter⟩
    · obtain ⟨count, hspends⟩ := hfirst.spends
      obtain ⟨more, hspends'⟩ := hsecond.spends
      exact ⟨_, hspends.trans hspends'⟩
  takes htakes := by
    refine ⟨fun text h _ => ?_, (stepwise_proceeds.takes htakes).2⟩
    obtain ⟨set, hskips, -⟩ := htakes.skips
    exact ⟨_, _, h.skip hskips⟩
  code hgives := by
    refine ⟨fun text h _ => ?_, (stepwise_proceeds.code hgives).2⟩
    obtain ⟨sets, text', hafter, -⟩ := codeSegment_spells h hgives
    exact ⟨sets, text', hafter⟩
  terminal hgives := by
    refine ⟨fun text h hproper => ?_, (stepwise_proceeds.terminal hgives).2⟩
    obtain ⟨sets, text', _, hafter, -⟩ := terminal_spells h hproper hgives
    exact ⟨sets, text', hafter⟩
  tell parser detail message := ⟨fun text h _ => ⟨_, _, h.tell detail message⟩,
    (stepwise_proceeds.tell parser detail message).2⟩

/-- Consuming token sets, the parser goes on in its text. -/
theorem Goes.moves {source : Source} (h : parser.Goes after) (hstands : parser.StandsIn source) :
    Moves source parser after := by
  obtain ⟨_, hspends⟩ := h.spends
  exact (hspends.moves hstands).1

namespace Stepwise

variable {holds : Parser → Parser → Prop} (h : Stepwise holds) {id : TerminalId}

include h

/-- The terminal of an element is read, however often it is negated. -/
theorem reads_terminal_of_element {parser : Parser} {found : Element}
    (hgives : (parser.element).Gives found after) (hterminal : found.unnegated = .terminal id) :
    ∃ start stop, holds parser start ∧ (Parser.terminal start).Gives id stop ∧ holds stop after := by
  obtain ⟨sign, middle, hsign, inner, hinner, rfl⟩ | ⟨-, ⟨_, _, _, _, _, _, _, _, rfl⟩ |
    ⟨-, found, hfound, rfl⟩⟩ := element_gives.1 hgives
  · obtain ⟨start, stop, hstart, hread, hstop⟩ := reads_terminal_of_element hinner hterminal
    exact ⟨start, stop, h.trans (h.takes hsign) hstart, hread, hstop⟩
  · contradiction
  · obtain rfl := Element.terminal.inj hterminal
    exact ⟨parser, after, h.refl parser, hfound, h.refl after⟩
termination_by parser.remaining
decreasing_by
  have hless := hsign.remaining_le
  omega

/-- The terminal of a component is read. -/
theorem reads_terminal_of_component {component : Component}
    (hgives : (parser.component).Gives component after)
    (hterminal : component.element.unnegated = .terminal id) :
    ∃ start stop, holds parser start ∧ (Parser.terminal start).Gives id stop ∧ holds stop after := by
  obtain ⟨atLabel, hinFront, atElement, hlabel, atSuffixes, helement, atCode, hsuffixes, hbehind,
    -⟩ := component_gives.1 hgives
  obtain ⟨start, stop, hstart, hread, hstop⟩ := h.reads_terminal_of_element helement hterminal
  have hatElement := h.trans (h.codeInFront hinFront) (h.labelName hlabel)
  exact ⟨start, stop, h.trans hatElement hstart, hread,
    h.trans (h.trans hstop (h.suffixes hsuffixes)) (h.codeBehind hbehind)⟩

end Stepwise

/-- A terminal that is a set of texts is read up to the slash that ends it. -/
theorem Stands.terminal_readsToSlash {id : TerminalId} {set : RegexSet} (h : parser.Stands [] text)
    (hproper : parser.arena.Proper) (hgives : (terminal parser).Gives id after)
    (hget : after.arena.get? id = some (.set set)) :
    ∃ opening inner slash rest,
      parser.ReadsToSlash text set.source.toList opening inner slash rest after := by
  have hmet {middle : Parser} {value : Terminal} (hproper : middle.arena.Proper)
      (hintern : (middle.intern value).Gives id after)
      (hset : ∀ set, value = .set set → RegexSet.compile set.source set.flags = .ok set) :
      value = .set set := by
    obtain ⟨rfl, rfl⟩ := gives_intern.1 hintern
    exact Option.some.inj ((Arena.get?_intern hproper hset).symm.trans hget)
  have htaken {rules : List String} {token : Token} {middle : Parser}
      (htakes : parser.Takes rules token middle) : middle.arena.Proper := by
    obtain ⟨_, hskips, -⟩ := htakes.skips
    exact hskips.arena_eq ▸ hproper
  obtain ⟨token, middle, htoken, hintern⟩ | ⟨-, ⟨token, middle, htoken, hintern⟩ |
    ⟨-, ⟨token, middle, htoken, hintern⟩ | ⟨-, hsees, found, middle, hfound, hintern⟩⟩⟩ :=
    terminal_gives.1 hgives
  · cases hmet (htaken htoken) hintern nofun
  · cases hmet (htaken htoken) hintern nofun
  · cases hmet (htaken htoken) hintern nofun
  · have hcompiled (set : RegexSet) (heq : Terminal.set found = .set set) :
        RegexSet.compile set.source set.flags = .ok set :=
      Terminal.set.inj heq ▸ compile_of_gives hfound
    obtain ⟨opening, inner, slash, rest, hreads⟩ := h.regexLiteral_readsToSlash hsees hfound
    obtain ⟨flags, text', hmiddle, hsuffix⟩ := hreads.consumes
    obtain rfl := Terminal.set.inj (hmet (hmiddle.proper hproper) hintern hcompiled)
    have hafter := (hmiddle.intern hproper hintern hcompiled).1
    exact ⟨opening, inner, slash, rest, { hreads with consumes := ⟨flags, text', hafter, hsuffix⟩ }⟩

/-- A terminal that is known in the end was met where it was read. -/
theorem Goes.met {last : Parser} {id : TerminalId} {value : Terminal} (h : after.Goes last)
    (hstands : parser.Stands [] text) (hproper : parser.arena.Proper)
    (hgives : (terminal parser).Gives id after) (hget : last.arena.get? id = some value) :
    after.arena.get? id = some value := by
  obtain ⟨_, text', found, hafter, hfound, -⟩ := terminal_spells hstands hproper hgives
  obtain ⟨_, _, hlast⟩ := h.consumes text' hafter.stands (hafter.proper hproper)
  rw [hfound, ← hget, hlast.within.get? hfound]

/-- If the terminal of a component is a set of texts in the end, then it is read up to the slash that
ends it. -/
theorem Stands.component_readsToSlash {last : Parser} {found : Component} {id : TerminalId}
    {set : RegexSet} (h : parser.Stands [] text) (hproper : parser.arena.Proper)
    (hgives : (component parser).Gives found after) (hterminal : found.element.unnegated = .terminal id)
    (hlast : after.Goes last) (hget : last.arena.get? id = some (.set set)) :
    ∃ start stop sets text' opening inner slash rest, parser.Goes start ∧
      parser.Consumes text sets [] start text' ∧
      start.ReadsToSlash text' set.source.toList opening inner slash rest stop ∧ start.Goes stop ∧
      stop.Goes after := by
  have hstep := stepwise_goes
  obtain ⟨start, stop, hstart, hread, hstop⟩ := hstep.reads_terminal_of_component hgives hterminal
  obtain ⟨sets, text', hconsumes⟩ := hstart.consumes text h hproper
  have hproper' := hconsumes.proper hproper
  have hmet := (hstep.trans hstop hlast).met hconsumes.stands hproper' hread hget
  obtain ⟨opening, inner, slash, rest, hreads⟩ :=
    hconsumes.stands.terminal_readsToSlash hproper' hread hmet
  exact ⟨start, stop, sets, text', opening, inner, slash, rest, hstart, hconsumes, hreads,
    hstep.terminal hread, hstop⟩

end Parser

/-! ## Sets of texts -/

/-- In a text that is cut into token sets, an expression stands between two slashes. -/
structure Delimited (table : RuleTable) (source : Source) (tokens : List TokenSet) (span : Span)
    (expression : List Char) (opening : TokenSet) (inner : List TokenSet) (slash : TokenSet) :
    Prop where
  /-- The slashes and what is between them are token sets of the text, one behind the other. -/
  among : ∃ front behind, tokens = front ++ (opening :: inner ++ slash :: behind)
  /-- They stand in this place. -/
  inside : span.start ≤ opening.first.span.start ∧ slash.first.span.stop ≤ span.stop
  /-- The first of them is a slash. -/
  opens : Is opening "/"
  /-- The expression is the text behind it, up to the slash where it ends. -/
  ends : ∃ front rest, source.chars = front ++ '/' :: (expression ++ '/' :: rest) ∧
    byteSize front = opening.first.span.start ∧
    EndsAtSlash (table.rulesInMode Lexicon.regexMode) (byteSize front + 1) expression rest inner slash
  /-- With a slash and any text behind it, the expression is cut into the same token sets, and ends at
  the same slash. -/
  anyway : ∃ inner' slash', EndsAnyway table expression inner' slash' ∧
    inner = inner'.map (·.later (opening.first.span.start + 1)) ∧
    slash = slash'.later (opening.first.span.start + 1)

/-- What an expression is read to stands between two slashes of the text. -/
theorem Parser.ReadsToSlash.delimited {parser after : Parser} {source : Source} {tokens : List TokenSet}
    {text expression rest : List Char} {opening slash : TokenSet} {inner : List TokenSet} {span : Span}
    (h : parser.ReadsToSlash text expression opening inner slash rest after)
    (hstands : parser.Stands [] text) (hin : parser.StandsIn source)
    (hstart : span.start ≤ parser.start) (hstop : after.scanner.previousEnd ≤ span.stop)
    (hbrace : '\x7d' ∈ rest)
    (hamong : ∃ front behind, tokens = front ++ (opening :: inner ++ slash :: behind)) :
    Delimited parser.scanner.table source tokens span expression opening inner slash := by
  have hopening : parser.start = opening.first.span.start := Parser.start_eq h.current
  have hends := h.ends
  refine ⟨hamong, ⟨hopening ▸ hstart, ?_⟩, h.opens, ?_, ?_⟩
  · -- The parser has come as far as the second slash.
    obtain ⟨flags, text', hconsumes, front, hfront⟩ := h.consumes
    obtain ⟨_, _, -, -, -, -, hspan, -⟩ := hends.first.cut
    have hsize := hstands.start_add_size h.current
    have hend := hconsumes.stands.at_text.offset_eq
    rw [hconsumes.source_eq] at hend
    rw [h.gap_eq, ← hfront] at hsize
    have hone : '/'.utf8Size = 1 := rfl
    simp only [byteSize_cons, byteSize_append, hone] at hsize
    rw [hspan]
    simp only
    omega
  · have hsuffix := (behindGap_suffix text).trans hstands.at_text.suffix
    have hsize := hstands.start_add_size h.current
    rw [hin.source_eq] at hsuffix hsize
    obtain ⟨front, hfront⟩ := hsuffix
    rw [source.size_eq, ← hfront, byteSize_append] at hsize
    have hplace : byteSize front = parser.start := by omega
    refine ⟨front, rest, by rw [← hfront, h.gap_eq], hplace.trans hopening, ?_⟩
    rwa [hplace]
  · rw [← hopening]
    exact hends.anyway hstands.table hbrace

/-- Components that stand inside one another stand in the grammar. -/
theorem Nested.has {grammar : Grammar} {around : List Component} (h : grammar.Nested around) :
    ∀ component ∈ around, grammar.Has (.component component) := by
  induction h with
  | none => simp
  | @inside around branch component outer hbranch hcomponent ih =>
    have hhas : grammar.Has (.branch branch) := by
      cases around with
      | nil =>
        obtain ⟨production, hproduction, hmem⟩ := List.mem_flatMap.1 hbranch
        have houter : grammar.Has (.production production) :=
          .child .self (List.mem_map_of_mem hproduction)
        exact .child houter (List.mem_map_of_mem hmem)
      | cons innermost others =>
        have hinside : Node.branch branch ∈ (Node.component innermost).children :=
          List.mem_append_left _ (List.mem_append_right _ (List.mem_map_of_mem hbranch))
        exact .child (ih innermost List.mem_cons_self) hinside
    rw [List.forall_mem_cons]
    exact ⟨.child hhas (List.mem_map_of_mem hcomponent), ih⟩

/-- Every terminal of a parsed grammar is the element of a component, maybe negated. -/
theorem exists_component_of_parse {source : Source} {grammar : Grammar}
    (h : (parse source).result = .ok grammar) {id : TerminalId} {terminal : Terminal}
    (hget : grammar.arena.get? id = some terminal) :
    ∃ component, grammar.Has (.component component) ∧ component.element.unnegated = .terminal id := by
  have hid : id ∈ grammar.arena.ids := by
    rw [Arena.ids, List.mem_map]
    exact ⟨id.index, List.mem_range.2 (List.getElem?_eq_some_iff.1 hget).1, rfl⟩
  rw [← (inOrder_of_parse h).first, List.mem_eraseDups, ← map_id_sites] at hid
  obtain ⟨site, hsite, rfl⟩ := List.mem_map.1 hid
  obtain ⟨hnested, component, hinnermost, hterminal⟩ := mem_sites_iff.1 hsite
  exact ⟨component, hnested.has component (List.mem_of_mem_head? hinnermost), hterminal⟩

/-- **A set of texts ends at the right slash.** Wherever it occurs in a parsed grammar, the text
between the slashes is its expression. The second slash is the first one outside of classes, there the
groups are closed, and both are so whatever comes behind. -/
theorem sets_end_at_slashes {source : Source} {grammar : Grammar}
    (h : (parse source).result = .ok grammar) :
    ∃ table tokens, Lexicon.table = .ok table ∧
      (parseWithTokens source).result = .ok (grammar, tokens) ∧
      ∀ id set, grammar.arena.get? id = some (.set set) →
        (∃ component, grammar.Has (.component component) ∧
          component.element.unnegated = .terminal id) ∧
        ∀ component, grammar.Has (.component component) →
          component.element.unnegated = .terminal id →
          ∃ opening inner slash, Delimited table source tokens component.span set.source.toList opening
            inner slash := by
  obtain ⟨tokens, htokens⟩ := exists_tokens_of_parse h
  obtain ⟨parser, after, hstands, hoffset, harena, hrecorded, hgives, rfl⟩ :=
    run_of_parseWithTokens htokens
  refine ⟨parser.scanner.table, _, hstands.table, htokens, fun id set hget =>
    ⟨exists_component_of_parse h hget, fun component hcomponent hterminal => ?_⟩⟩
  -- The terminal is read somewhere between the braces of the grammar.
  obtain ⟨keyword, atName, hkeyword, name, atBrace, hname, brace, inside, hbrace, atClosing,
    hproductions, hsees, closing, hclosing, hend, -, harena', -⟩ := Parser.wholeGrammar_gives.1 hgives
  have hstep := Parser.stepwise_goes
  have hinside := hstep.trans (hstep.trans (hstep.takes hkeyword) (hstep.takes hname))
    (hstep.takes hbrace)
  obtain hwhole | ⟨start, stop, hstart, hread, hstop⟩ :=
    hcomponent.isReadInside hstep hproductions
  · contradiction
  have hend' := hstep.trans hstop (hstep.takes hclosing)
  obtain ⟨before, _, hfront⟩ :=
    (hstep.trans hinside hstart).consumes _ hstands (harena ▸ Arena.proper_empty)
  have hproper := hfront.proper (harena ▸ Arena.proper_empty)
  rw [harena'] at hget
  obtain ⟨first, last, sets, text, opening, inner, slash, rest, hfirst, hconsumes, hreads, hgoes,
    hlast⟩ := hfront.stands.component_readsToSlash hproper hread hterminal hend' hget
  refine ⟨opening, inner, slash, ?_⟩
  -- Behind it stands the closing brace of the grammar.
  obtain ⟨flags, text', hmiddle, hsuffix⟩ := hreads.consumes
  obtain ⟨others, text'', hbehind⟩ := (hstep.trans hlast hstop).consumes _ hmiddle.stands
    (hmiddle.proper (hconsumes.proper hproper))
  have hsign : '\x7d' ∈ signChars := by decide
  have hmem : '\x7d' ∈ rest :=
    (hbehind.suffix.trans hsuffix).subset (hbehind.stands.mem_of_sees_sign hsign hsees)
  -- All token sets up to the end are kept.
  obtain ⟨closingSet, hskips, -⟩ := hclosing.skips
  have hwhole := (((hfront.trans hconsumes).trans hmiddle).trans hbehind).trans
    (hbehind.stands.skip hskips)
  have hkept := hwhole.recorded [] (by simpa using hrecorded)
  have hnone : after.scanner.current = none := by simpa [Scanner.atEnd] using hend
  have hamong : (after.scanner.recorded.getD []).reverse = (before ++ sets) ++
      (opening :: inner ++ slash :: (flags ++ (others ++ [closingSet]))) := by
    rw [hkept, hnone]
    simp
  -- The component starts in front of the terminal, and ends behind it.
  have hatStart := ((hstep.trans hinside hstart).moves (hstands.standsIn_of_start hoffset)).stands
  have hmoves := hfirst.moves hatStart
  have hmoves' := hlast.moves (hgoes.moves hmoves.stands).stands
  have htable : parser.scanner.table = first.scanner.table :=
    Except.ok.inj (hstands.table.symm.trans hconsumes.stands.table)
  rw [htable, (Parser.component_covers hatStart hread).span_eq]
  exact hreads.delimited hconsumes.stands hmoves.stands hmoves.start_le hmoves'.previousEnd_le hmem
    ⟨_, _, hamong⟩

/-- A set of texts with slashes in classes, one inside another and one in a group, ends at the slash
behind the group. -/
theorem sets_end_at_slashes_nested : ∃ grammar set, ∃ component : Component,
    ∃ table tokens opening inner slash,
    (parse (.ofString "grammar G { a : /[^]/[/]](x[/])/ ; }")).result = .ok grammar ∧
      grammar.arena.get? ⟨0⟩ = some (.set set) ∧ set.source = "[^]/[/]](x[/])" ∧
      component.element.unnegated = .terminal ⟨0⟩ ∧
      Delimited table (.ofString "grammar G { a : /[^]/[/]](x[/])/ ; }") tokens component.span
        set.source.toList opening inner slash := by
  have hkey : ((parse (.ofString "grammar G { a : /[^]/[/]](x[/])/ ; }")).result.toOption.bind
      fun grammar => (grammar.arena.get? ⟨0⟩).map Terminal.key) =
        some (.set "[^]/[/]](x[/])" "") := by
    rw [result_parse_words]
    decide +kernel
  obtain ⟨grammar, hsome, hfound⟩ := Option.bind_eq_some_iff.1 hkey
  obtain ⟨terminal, hget, hsame⟩ := Option.map_eq_some_iff.1 hfound
  have hparsed := ok_of_toOption hsome
  cases terminal with
  | set set =>
    obtain ⟨hsource, -⟩ := TerminalKey.set.inj hsame
    obtain ⟨table, tokens, -, -, hends⟩ := sets_end_at_slashes hparsed
    obtain ⟨⟨component, hcomponent, hterminal⟩, hall⟩ := hends _ set hget
    obtain ⟨opening, inner, slash, hdelimited⟩ := hall component hcomponent hterminal
    exact ⟨grammar, set, component, table, tokens, opening, inner, slash, hparsed, hget, hsource,
      hterminal, hdelimited⟩
  | _ => contradiction

end GrammarLang.Grammar

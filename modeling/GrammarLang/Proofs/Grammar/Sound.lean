import GrammarLang.Proofs.Grammar.RegexSpelt

/-! # The parser is sound

Each function of the parser answers with a node that the token sets it has consumed spell, no more
and no fewer. **`parseWithTokens_spells`**: the token sets that come with a parsed grammar spell it,
from the first to the last. -/

namespace GrammarLang.Grammar.Parser

open GrammarLang.Scan GrammarLang.Text

open Lexicon (ident number string)

variable {parser after : Parser} {entered : List String} {text : List Char}

/-- Taking a token of one rule consumes a token set that offers it. -/
theorem Takes.consumes {rule : String} {token : Token} (h : parser.Stands entered text)
    (htakes : parser.Takes [rule] token after) :
    ∃ set, parser.Consumes text [set] entered after parser.scanner.place.rest ∧
      Offers set rule token := by
  obtain ⟨set, hskips, hoffers⟩ := htakes.offers
  exact ⟨set, h.skip hskips, hoffers⟩

/-- Taking a number consumes a token set with its value. -/
theorem Takes.number {token : Token} (h : parser.Stands entered text)
    (htakes : parser.Takes [number] token after) :
    ∃ set, parser.Consumes text [set] entered after parser.scanner.place.rest ∧
      NumberSpells (numberOf token) set := by
  obtain ⟨set, hskips, hoffers⟩ := htakes.offers
  exact ⟨set, h.skip hskips, token, hoffers, h.numberOf_eq hskips.1 hoffers⟩

/-! ## Terminals -/

/-- A terminal that is added to the arena is found there from then on. -/
theorem Consumes.intern {sets : List TokenSet} {text' : List Char} {terminal : Terminal}
    {id : TerminalId} {middle : Parser} (h : parser.Consumes text sets entered middle text')
    (hproper : parser.arena.Proper) (hintern : (middle.intern terminal).Gives id after)
    (hset : ∀ set, terminal = .set set → RegexSet.compile set.source set.flags = .ok set) :
    parser.Consumes text sets entered after text' ∧ after.arena.get? id = some terminal := by
  obtain ⟨rfl, rfl⟩ := gives_intern.1 hintern
  have hget := Arena.get?_intern (h.proper hproper) hset
  refine ⟨⟨⟨h.stands.table, h.stands.entered_eq, h.stands.at_text⟩, h.suffix, h.source_eq,
    h.recorded, h.within.trans (Arena.within_intern _ _), fun hproper => ?_⟩, hget⟩
  exact (h.proper hproper).intern hset

/-- The token sets consumed for a terminal spell it. -/
theorem terminal_spells {id : TerminalId} (h : parser.Stands entered text)
    (hproper : parser.arena.Proper) (hgives : (terminal parser).Gives id after) :
    ∃ sets text' terminal, parser.Consumes text sets entered after text' ∧
      after.arena.get? id = some terminal ∧ TerminalSpells terminal sets := by
  obtain ⟨token, middle, htoken, hintern⟩ | ⟨-, ⟨token, middle, htoken, hintern⟩ |
    ⟨-, ⟨token, middle, htoken, hintern⟩ | ⟨-, -, set, middle, hset, hintern⟩⟩⟩ :=
    terminal_gives.1 hgives
  · obtain ⟨set, hmiddle, hoffers⟩ := htoken.consumes h
    obtain ⟨hafter, hget⟩ := hmiddle.intern hproper hintern nofun
    exact ⟨[set], _, _, hafter, hget, .ident hoffers⟩
  · obtain ⟨set, hmiddle, token', hoffers, hvalue⟩ := htoken.number h
    obtain ⟨hafter, hget⟩ := hmiddle.intern hproper hintern nofun
    exact ⟨[set], _, _, hafter, hget, .number hoffers hvalue⟩
  · obtain ⟨set, hskips, hoffers⟩ := htoken.offers
    obtain ⟨hafter, hget⟩ := (h.skip hskips).intern hproper hintern nofun
    exact ⟨[set], _, _, hafter, hget, .string hoffers (h.textOf_eq hskips.1 hoffers)⟩
  · obtain ⟨sets, text', hmiddle, hspells, hcompiled⟩ := regexLiteral_spells h hset
    obtain ⟨hafter, hget⟩ := hmiddle.intern hproper hintern (by rintro _ ⟨⟩; exact hcompiled)
    exact ⟨sets, text', _, hafter, hget, hspells⟩

/-! ## Suffixes -/

/-- The token sets consumed for a range spell it. -/
theorem rangeSuffix_spells {suffix : Suffix} (h : parser.Stands entered text)
    (hgives : (rangeSuffix parser).Gives suffix after) :
    ∃ sets text', parser.Consumes text sets entered after text' ∧ SuffixSpells suffix sets := by
  obtain ⟨opening, inside, hopening, lowest, atUpper, hlowest, upper, atEnd, hupper, closing,
    hclosing, hbound, rfl⟩ := rangeSuffix_gives.1 hgives
  obtain ⟨openingSet, hinside, hopens⟩ := hopening.consumes h
  obtain ⟨lowestSet, hatUpper, hlower⟩ := hlowest.number hinside.stands
  have hfront := hinside.trans hatUpper
  obtain ⟨comma, middle, hcomma, hupper⟩ | ⟨-, rfl, rfl⟩ := hupper
  · obtain ⟨commaSet, hmiddle, hseparates⟩ := hcomma.consumes hatUpper.stands
    obtain ⟨highest, hhighest, rfl⟩ | ⟨-, rfl, rfl⟩ := upperBound_gives.1 hupper
    · obtain ⟨highestSet, hatEnd, hupper⟩ := hhighest.number hmiddle.stands
      obtain ⟨closingSet, hafter, hcloses⟩ := hclosing.consumes hatEnd.stands
      exact ⟨[openingSet, lowestSet, commaSet, highestSet, closingSet], _,
        ((hfront.trans hmiddle).trans hatEnd).trans hafter,
        .between ⟨opening, hopens⟩ hlower ⟨comma, hseparates⟩ hupper ⟨closing, hcloses⟩
          (hbound _ rfl)⟩
    · obtain ⟨closingSet, hafter, hcloses⟩ := hclosing.consumes hmiddle.stands
      exact ⟨[openingSet, lowestSet, commaSet, closingSet], _,
        (hfront.trans hmiddle).trans hafter,
        .atLeast ⟨opening, hopens⟩ hlower ⟨comma, hseparates⟩ ⟨closing, hcloses⟩⟩
  · obtain ⟨closingSet, hafter, hcloses⟩ := hclosing.consumes hatUpper.stands
    exact ⟨[openingSet, lowestSet, closingSet], _, hfront.trans hafter,
      .exactly ⟨opening, hopens⟩ hlower ⟨closing, hcloses⟩⟩

/-- The token sets consumed for suffixes spell them. -/
theorem suffixes_spell {parser after : Parser} {entered : List String} {text : List Char}
    {suffixes : List Suffix} (h : parser.Stands entered text)
    (hgives : (parser.suffixes).Gives suffixes after) :
    ∃ sets text', parser.Consumes text sets entered after text' ∧
      Each SuffixSpells suffixes sets := by
  obtain ⟨sign, middle, hsign, others, hmore, rfl⟩ | ⟨-, ⟨-, first, middle, hfirst, others, hmore,
    rfl⟩ | ⟨-, rfl, rfl⟩⟩ := suffixes_gives.1 hgives
  · obtain ⟨set, hskips, hmem, husual⟩ := hsign.skips
    have hmiddle := h.skip hskips
    obtain ⟨further, text', hafter, hothers⟩ := suffixes_spell hmiddle.stands hmore
    exact ⟨_, _, hmiddle.trans hafter, .cons (.sign husual ⟨sign, hmem, rfl⟩) hothers⟩
  · obtain ⟨sets, text', hmiddle, hspells⟩ := rangeSuffix_spells h hfirst
    obtain ⟨further, text'', hafter, hothers⟩ := suffixes_spell hmiddle.stands hmore
    exact ⟨_, _, hmiddle.trans hafter, .cons hspells hothers⟩
  · exact ⟨[], text, .refl h, .nil⟩
termination_by parser.remaining
decreasing_by
  · have hless := hsign.remaining_le
    omega
  · have hless := hfirst.remaining_le
    omega

/-! ## Components and branches -/

/-- The token sets consumed in front of an element spell the predicate and the code. -/
theorem codeInFront_spells {predicate code : Option CodeSegment} (h : parser.Stands entered text)
    (hgives : (codeInFront parser).Gives (predicate, code) after) :
    ∃ sets text', parser.Consumes text sets entered after text' ∧
      FrontSpells predicate code sets := by
  obtain ⟨-, first, middle, hfirst, ⟨mark, behind, hmark, rfl, ⟨-, second, hsecond, rfl⟩ |
    ⟨-, rfl, rfl⟩⟩ | ⟨-, rfl, rfl, rfl⟩⟩ | ⟨-, rfl, rfl, rfl⟩ := codeInFront_gives.1 hgives
  · obtain ⟨sets, text', hmiddle, hspells⟩ := codeSegment_spells h hfirst
    obtain ⟨markSet, hbehind, hasks⟩ := hmark.consumes hmiddle.stands
    obtain ⟨further, text'', hafter, hcode⟩ := codeSegment_spells hbehind.stands hsecond
    refine ⟨sets ++ markSet :: further, text'', ?_,
      .predicate hspells ⟨mark, hasks⟩ (.some hcode)⟩
    simpa using (hmiddle.trans hbehind).trans hafter
  · obtain ⟨sets, text', hmiddle, hspells⟩ := codeSegment_spells h hfirst
    obtain ⟨markSet, hbehind, hasks⟩ := hmark.consumes hmiddle.stands
    exact ⟨sets ++ [markSet], _, hmiddle.trans hbehind, .predicate hspells ⟨mark, hasks⟩ .none⟩
  · obtain ⟨sets, text', hmiddle, hspells⟩ := codeSegment_spells h hfirst
    exact ⟨sets, text', hmiddle, .code hspells⟩
  · exact ⟨[], text, .refl h, .none⟩

/-- The token sets consumed for a label spell it. -/
theorem labelName_spells {label : Option String} (h : parser.Stands entered text)
    (hgives : (labelName parser).Gives label after) :
    ∃ sets text', parser.Consumes text sets entered after text' ∧ Maybe LabelSpells label sets := by
  obtain ⟨-, name, middle, hname, equals, hequals, rfl⟩ | ⟨-, rfl, rfl⟩ := labelName_gives.1 hgives
  · obtain ⟨set, hmiddle, hoffers⟩ := hname.consumes h
    obtain ⟨equalsSet, hafter, hsign⟩ := hequals.consumes hmiddle.stands
    exact ⟨[set, equalsSet], _, hmiddle.trans hafter, .some (.name hoffers ⟨equals, hsign⟩)⟩
  · exact ⟨[], text, .refl h, .none⟩

/-- The token sets consumed for code behind an element spell it. -/
theorem codeBehind_spells {code : Option CodeSegment} (h : parser.Stands entered text)
    (hgives : (codeBehind parser).Gives code after) :
    ∃ sets text', parser.Consumes text sets entered after text' ∧ Maybe CodeSpells code sets := by
  obtain ⟨-, segment, hsegment, rfl⟩ | ⟨-, rfl, rfl⟩ := codeBehind_gives.1 hgives
  · obtain ⟨sets, text', hafter, hspells⟩ := codeSegment_spells h hsegment
    exact ⟨sets, text', hafter, .some hspells⟩
  · exact ⟨[], text, .refl h, .none⟩

/-- The token that opens a group says what the group does. -/
theorem isGroupOpening {set : TokenSet} {opening : Token} (hmem : opening ∈ set.toList)
    (hrule : opening.rule ∈ ["(", "(?=", "(?!"]) : Is set (groupKindOf opening).opening := by
  simp only [List.mem_cons, List.not_mem_nil, or_false] at hrule
  refine ⟨opening, hmem, ?_⟩
  obtain hrule | hrule | hrule := hrule <;> rw [groupKindOf, hrule] <;> rfl

mutual

theorem branches_spell {parser after : Parser} {entered : List String} {text : List Char}
    {branches : List Branch} (h : parser.Stands entered text) (hproper : parser.arena.Proper)
    (hgives : (parser.branches).Gives branches after) :
    ∃ sets text', parser.Consumes text sets entered after text' ∧
      ∀ arena, after.arena.Within arena → BranchesSpell arena branches sets := by
  obtain ⟨first, middle, hfirst, hrest⟩ := branches_gives.1 hgives
  obtain ⟨sets, text', hmiddle, hspells⟩ := branch_spells h hproper hfirst
  obtain ⟨bar, behind, hbar, others, hmore, rfl⟩ | ⟨-, rfl, rfl⟩ := hrest
  · obtain ⟨barSet, hbehind, hseparates⟩ := hbar.consumes hmiddle.stands
    have hboth := hmiddle.trans hbehind
    obtain ⟨further, text'', hafter, hothers⟩ :=
      branches_spell hbehind.stands (hboth.proper hproper) hmore
    refine ⟨sets ++ barSet :: further, text'', by simpa using hboth.trans hafter,
      fun arena hwithin => .bar ?_ ⟨bar, hseparates⟩ (hothers arena hwithin)⟩
    exact hspells arena ((hbehind.within.trans hafter.within).trans hwithin)
  · exact ⟨sets, text', hmiddle, fun arena hwithin => .last (hspells arena hwithin)⟩
termination_by 5 * parser.remaining + 4
decreasing_by
  · omega
  · have hless := hfirst.remaining_le
    have hless' := hbar.remaining_le
    omega

theorem branch_spells {parser after : Parser} {entered : List String} {text : List Char}
    {branch : Branch} (h : parser.Stands entered text) (hproper : parser.arena.Proper)
    (hgives : (parser.branch).Gives branch after) :
    ∃ sets text', parser.Consumes text sets entered after text' ∧
      ∀ arena, after.arena.Within arena → ComponentsSpell arena branch.components sets :=
  components_spell h hproper (branch_gives.1 hgives).1
termination_by 5 * parser.remaining + 3

theorem components_spell {parser after : Parser} {entered : List String} {text : List Char}
    {components : List Component} (h : parser.Stands entered text) (hproper : parser.arena.Proper)
    (hgives : (parser.components).Gives components after) :
    ∃ sets text', parser.Consumes text sets entered after text' ∧
      ∀ arena, after.arena.Within arena → ComponentsSpell arena components sets := by
  obtain ⟨-, rfl, rfl⟩ | ⟨-, first, middle, hfirst, others, hmore, rfl⟩ :=
    components_gives.1 hgives
  · exact ⟨[], text, .refl h, fun _ _ => .nil⟩
  · obtain ⟨sets, text', hmiddle, hspells⟩ := component_spells h hproper hfirst
    obtain ⟨further, text'', hafter, hothers⟩ :=
      components_spell hmiddle.stands (hmiddle.proper hproper) hmore
    exact ⟨_, _, hmiddle.trans hafter, fun arena hwithin =>
      .cons (hspells arena (hafter.within.trans hwithin)) (hothers arena hwithin)⟩
termination_by 5 * parser.remaining + 2
decreasing_by
  · omega
  · have hless := hfirst.remaining_le
    omega

theorem component_spells {parser after : Parser} {entered : List String} {text : List Char}
    {component : Component} (h : parser.Stands entered text) (hproper : parser.arena.Proper)
    (hgives : (parser.component).Gives component after) :
    ∃ sets text', parser.Consumes text sets entered after text' ∧
      ∀ arena, after.arena.Within arena → ComponentSpells arena component sets := by
  obtain ⟨atLabel, hinFront, atElement, hlabel, atSuffixes, helement, atCode, hsuffixes, hbehind,
    -⟩ := component_gives.1 hgives
  obtain ⟨front, text₁, hatLabel, hfrontSpells⟩ := codeInFront_spells h hinFront
  obtain ⟨label, text₂, hatElement, hlabelSpells⟩ := labelName_spells hatLabel.stands hlabel
  have hbefore := hatLabel.trans hatElement
  obtain ⟨inner, text₃, hatSuffixes, helementSpells⟩ :=
    element_spells hatElement.stands (hbefore.proper hproper) helement
  obtain ⟨suffixes, text₄, hatCode, hsuffixesSpell⟩ := suffixes_spell hatSuffixes.stands hsuffixes
  obtain ⟨behind, text₅, hafter, hcodeSpells⟩ := codeBehind_spells hatCode.stands hbehind
  refine ⟨_, _, ((hbefore.trans hatSuffixes).trans hatCode).trans hafter, fun arena hwithin =>
    .parts hfrontSpells hlabelSpells (helementSpells arena ?_) hsuffixesSpell hcodeSpells⟩
  exact (hatCode.within.trans hafter.within).trans hwithin
termination_by 5 * parser.remaining + 1
decreasing_by
  have hless := hinFront.remaining_le
  have hless' := hlabel.remaining_le
  omega

theorem element_spells {parser after : Parser} {entered : List String} {text : List Char}
    {element : Element} (h : parser.Stands entered text) (hproper : parser.arena.Proper)
    (hgives : (parser.element).Gives element after) :
    ∃ sets text', parser.Consumes text sets entered after text' ∧
      ∀ arena, after.arena.Within arena → ElementSpells arena element sets := by
  obtain ⟨sign, middle, hsign, inner, hinner, rfl⟩ | ⟨-, ⟨opening, inside, hopening, inner, behind,
    hinner, closing, hclosing, rfl⟩ | ⟨-, id, hterminal, rfl⟩⟩ := element_gives.1 hgives
  · obtain ⟨signSet, hmiddle, hnegates⟩ := hsign.consumes h
    obtain ⟨sets, text', hafter, hspells⟩ :=
      element_spells hmiddle.stands (hmiddle.proper hproper) hinner
    exact ⟨signSet :: sets, text', hmiddle.trans hafter, fun arena hwithin =>
      .negation ⟨sign, hnegates⟩ (hspells arena hwithin)⟩
  · obtain ⟨openingSet, hskips, hmem, hrule⟩ := hopening.skips
    have hinside := h.skip hskips
    obtain ⟨sets, text', hbehind, hspells⟩ :=
      branches_spell hinside.stands (hinside.proper hproper) hinner
    obtain ⟨closingSet, hafter, hcloses⟩ := hclosing.consumes hbehind.stands
    exact ⟨openingSet :: sets ++ [closingSet], _, (hinside.trans hbehind).trans hafter,
      fun arena hwithin => .group (isGroupOpening hmem hrule)
        (hspells arena (hafter.within.trans hwithin)) ⟨closing, hcloses⟩⟩
  · obtain ⟨sets, text', terminal, hafter, hget, hspells⟩ := terminal_spells h hproper hterminal
    exact ⟨sets, text', hafter, fun arena hwithin => .terminal (hwithin.get? hget) hspells⟩
termination_by 5 * parser.remaining
decreasing_by
  · have hless := hsign.remaining_le
    omega
  · have hless := hopening.remaining_le
    omega

end

/-! ## Grammars -/

/-- Telling something changes nothing that matters. -/
theorem Stands.tell (h : parser.Stands entered text) (detail : Detail) (message : String) :
    parser.Consumes text [] entered (parser.tell detail message) text :=
  ⟨⟨h.table, h.entered_eq, ⟨h.at_text.first, h.at_text.suffix, h.at_text.offset_eq⟩⟩,
    List.suffix_rfl, rfl, fun before hrecorded => by rw [List.append_nil]; exact hrecorded,
    .refl _, id⟩

/-- The token sets consumed for a production spell it. -/
theorem production_spells {production : Production} (h : parser.Stands entered text)
    (hproper : parser.arena.Proper) (hgives : (parser.production).Gives production after) :
    ∃ sets text', parser.Consumes text sets entered after text' ∧
      ∀ arena, after.arena.Within arena → ProductionSpells arena production sets := by
  obtain ⟨name, atColon, hname, colon, inside, hcolon, atEnd, hbranches, semicolon, last,
    hsemicolon, hnamed, rfl, -⟩ := production_gives.1 hgives
  obtain ⟨nameSet, hatColon, hoffers⟩ := hname.consumes h
  obtain ⟨colonSet, hinside, hopens⟩ := hcolon.consumes hatColon.stands
  have hfront := hatColon.trans hinside
  obtain ⟨sets, text', hatEnd, hspells⟩ :=
    branches_spell hinside.stands (hfront.proper hproper) hbranches
  obtain ⟨semicolonSet, hlast, hcloses⟩ := hsemicolon.consumes hatEnd.stands
  have hafter := hlast.stands.tell .debug
    s!"Parsed production '{name.text}' with {production.branches.length} alternatives"
  refine ⟨nameSet :: colonSet :: sets ++ [semicolonSet], atEnd.scanner.place.rest, ?_,
    fun arena hwithin =>
    .named hoffers hnamed ⟨colon, hopens⟩ (hspells arena ?_) ⟨semicolon, hcloses⟩⟩
  · simpa using ((hfront.trans hatEnd).trans hlast).trans hafter
  · exact (hlast.within.trans hafter.within).trans hwithin

/-- The token sets consumed for productions spell them. -/
theorem productions_spell {parser after : Parser} {entered : List String} {text : List Char}
    {productions : List Production} (h : parser.Stands entered text)
    (hproper : parser.arena.Proper) (hgives : (parser.productions).Gives productions after) :
    ∃ sets text', parser.Consumes text sets entered after text' ∧
      ∀ arena, after.arena.Within arena → Each (ProductionSpells arena) productions sets := by
  obtain ⟨-, first, middle, hfirst, others, hmore, rfl⟩ | ⟨-, rfl, rfl⟩ :=
    productions_gives.1 hgives
  · obtain ⟨sets, text', hmiddle, hspells⟩ := production_spells h hproper hfirst
    obtain ⟨further, text'', hafter, hothers⟩ :=
      productions_spell hmiddle.stands (hmiddle.proper hproper) hmore
    exact ⟨_, _, hmiddle.trans hafter, fun arena hwithin =>
      .cons (hspells arena (hafter.within.trans hwithin)) (hothers arena hwithin)⟩
  · exact ⟨[], text, .refl h, fun _ _ => .nil⟩
termination_by parser.remaining
decreasing_by
  have hless := hfirst.remaining_le
  omega

/-- The token sets consumed for a whole grammar spell it, and no text is left. -/
theorem wholeGrammar_spells {grammar : Grammar} (h : parser.Stands entered text)
    (hproper : parser.arena.Proper) (hgives : (wholeGrammar parser).Gives grammar after) :
    ∃ sets text', parser.Consumes text sets entered after text' ∧
      GrammarSpells grammar sets ∧ after.scanner.current = none := by
  obtain ⟨keyword, atName, hkeyword, name, atOpening, hname, opening, inside, hopening, atClosing,
    hproductions, -, closing, hclosing, hend, hnamed, harena, -⟩ := wholeGrammar_gives.1 hgives
  obtain ⟨keywordSet, hatName, hstarts⟩ := hkeyword.consumes h
  obtain ⟨nameSet, hatOpening, hoffers⟩ := hname.consumes hatName.stands
  obtain ⟨openingSet, hinside, hopens⟩ := hopening.consumes hatOpening.stands
  have hfront := (hatName.trans hatOpening).trans hinside
  obtain ⟨sets, text', hatClosing, hspells⟩ :=
    productions_spell hinside.stands (hfront.proper hproper) hproductions
  obtain ⟨closingSet, hafter, hcloses⟩ := hclosing.consumes hatClosing.stands
  refine ⟨keywordSet :: nameSet :: openingSet :: sets ++ [closingSet], _,
    (hfront.trans hatClosing).trans hafter, ?_, by simpa [Scanner.atEnd] using hend⟩
  refine .named ⟨keyword, hstarts⟩ hoffers hnamed ⟨opening, hopens⟩ (hspells _ ?_)
    ⟨closing, hcloses⟩
  rw [harena]
  exact hafter.within

/-- A scanner just created makes a parser stand at the whole text. -/
theorem stands_create {table : RuleTable} {source : Source} {scanner : Scanner} (arena : Arena)
    (htable : Lexicon.table = .ok table) (hcreate : Scanner.create table source = .ok () scanner) :
    (Parser.mk scanner arena).Stands [] source.chars ∧ scanner.recorded = none := by
  rw [Scanner.create_eq] at hcreate
  have hanchored : Anchored (Scanner.initial table source).rules :=
    Lexicon.anchored_mode htable defaultMode
  obtain ⟨-, htable', -, hentered, -, hrecorded⟩ := Scanner.advance_first hanchored hcreate
  refine ⟨⟨by rw [htable, htable']; rfl, hentered, ?_⟩, hrecorded⟩
  exact Scanner.at_of_advance hanchored rfl hcreate

end GrammarLang.Grammar.Parser

namespace GrammarLang.Grammar

open GrammarLang.Scan GrammarLang.Text

/-- **The parser is sound.** A grammar that a text is parsed to is spelt by the token sets that were
recorded on the way, each of them used once, from the first to the last. -/
theorem parseWithTokens_spells {source : Source} {grammar : Grammar} {sets : List TokenSet}
    (h : (parseWithTokens source).result = .ok (grammar, sets)) : GrammarSpells grammar sets := by
  simp only [parseWithTokens, run] at h
  split at h
  · simp [Except.map] at h
  · rename_i table htable
    split at h
    · simp [Except.map] at h
    · rename_i scanner hcreate
      split at h
      · simp [Except.map] at h
      · rename_i parsed after used hparsed
        simp only [Except.map, Except.ok.injEq, Prod.mk.injEq] at h
        obtain ⟨rfl, rfl⟩ := h
        obtain ⟨hstands, hrecorded⟩ := Parser.stands_create .empty htable hcreate
        have hready : (Parser.mk scanner.record .empty).Stands [] source.chars :=
          ⟨hstands.table, hstands.entered_eq,
            ⟨hstands.at_text.first, hstands.at_text.suffix, hstands.at_text.offset_eq⟩⟩
        obtain ⟨sets, text', hconsumes, hspells, hend⟩ :=
          Parser.wholeGrammar_spells hready Arena.proper_empty ⟨used, hparsed⟩
        have hkept := hconsumes.recorded [] (by simp [Scanner.record, hrecorded])
        rw [hend] at hkept
        have htaken : after.scanner.takeRecorded.1 = sets := by
          simp [Scanner.takeRecorded, hkept]
        rwa [htaken]

/-- A grammar with a predicate, a label, a negation, a group and a number is spelt by its token
sets. -/
theorem parseWithTokens_spells_small : ∃ grammar sets,
    (parseWithTokens (.ofString "grammar G { a : { p } ? x = ~ (b*) | 5 ; }")).result =
      .ok (grammar, sets) ∧ sets.length = 20 ∧ GrammarSpells grammar sets := by
  have hcount : (parseWithTokens
      (.ofString "grammar G { a : { p } ? x = ~ (b*) | 5 ; }")).result.toOption.map
        (fun found => found.2.length) = some 20 := by
    rw [result_parseWithTokens_words]
    decide +kernel
  obtain ⟨⟨grammar, sets⟩, hsome, hlength⟩ := Option.map_eq_some_iff.1 hcount
  have hparsed := ok_of_toOption hsome
  exact ⟨grammar, sets, hparsed, hlength, parseWithTokens_spells hparsed⟩

end GrammarLang.Grammar

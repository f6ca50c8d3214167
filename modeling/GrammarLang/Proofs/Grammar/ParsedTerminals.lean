import GrammarLang.Proofs.Grammar.RegexLiteral
import GrammarLang.Proofs.Grammar.Sound
import GrammarLang.Proofs.Grammar.Writable

/-! # The terminals of a parsed grammar

What holds around every single step of the parser holds around each of its functions, as these only
put steps together: **`Parser.Stepwise`**. So the terminals of a parsed grammar are all different, its
names are names, and every set of texts has been read as a literal between slashes, with the closing
brace of the grammar behind it: **`tidy_of_parse`**. -/

namespace GrammarLang.Grammar

open GrammarLang.Scan GrammarLang.Text

open Lexicon (ident)

namespace Parser

/-- What is true of the states before and after single steps is true of steps in a row, as far as these
read no terminal. -/
structure StepwiseAround (holds : Parser → Parser → Prop) : Prop where
  /-- Nothing is done. -/
  refl (parser : Parser) : holds parser parser
  /-- One thing is done after another. -/
  trans {parser middle after : Parser} : holds parser middle → holds middle after →
    holds parser after
  /-- A token is taken. -/
  takes {parser after : Parser} {rules : List String} {token : Token} :
    parser.Takes rules token after → holds parser after
  /-- Code is read. -/
  code {parser after : Parser} {code : CodeSegment} :
    (codeSegment parser).Gives code after → holds parser after

/-- What is true of the states before and after single steps is true of steps in a row. -/
structure Stepwise (holds : Parser → Parser → Prop) : Prop extends StepwiseAround holds where
  /-- A terminal is read. -/
  terminal {parser after : Parser} {id : TerminalId} :
    (terminal parser).Gives id after → holds parser after
  /-- Something is told. -/
  tell (parser : Parser) (detail : Detail) (message : String) :
    holds parser (parser.tell detail message)

namespace StepwiseAround

variable {holds : Parser → Parser → Prop} (h : StepwiseAround holds) {parser after : Parser}

include h

theorem rangeSuffix {suffix : Suffix} (hgives : (rangeSuffix parser).Gives suffix after) :
    holds parser after := by
  obtain ⟨opening, inside, hopening, lowest, atUpper, hlowest, upper, atEnd, hupper, closing,
    hclosing, -⟩ := rangeSuffix_gives.1 hgives
  have hfront := h.trans (h.takes hopening) (h.takes hlowest)
  have hatEnd : holds atUpper atEnd := by
    obtain ⟨comma, middle, hcomma, hbound⟩ | ⟨-, -, rfl⟩ := hupper
    · obtain ⟨highest, hhighest, -⟩ | ⟨-, -, rfl⟩ := upperBound_gives.1 hbound
      · exact h.trans (h.takes hcomma) (h.takes hhighest)
      · exact h.takes hcomma
    · exact h.refl atUpper
  exact h.trans (h.trans hfront hatEnd) (h.takes hclosing)

theorem suffixes {parser after : Parser} {found : List Suffix}
    (hgives : (parser.suffixes).Gives found after) : holds parser after := by
  obtain ⟨sign, middle, hsign, others, hmore, -⟩ | ⟨-, ⟨-, first, middle, hfirst, others, hmore,
    -⟩ | ⟨-, -, rfl⟩⟩ := suffixes_gives.1 hgives
  · exact h.trans (h.takes hsign) (suffixes hmore)
  · exact h.trans (h.rangeSuffix hfirst) (suffixes hmore)
  · exact h.refl parser
termination_by parser.remaining
decreasing_by
  · have hless := hsign.remaining_le
    omega
  · have hless := hfirst.remaining_le
    omega

theorem codeInFront {predicate code : Option CodeSegment}
    (hgives : (codeInFront parser).Gives (predicate, code) after) : holds parser after := by
  obtain ⟨-, first, middle, hfirst, ⟨mark, behind, hmark, -, ⟨-, second, hsecond, -⟩ |
    ⟨-, -, rfl⟩⟩ | ⟨-, -, -, rfl⟩⟩ | ⟨-, -, -, rfl⟩ := codeInFront_gives.1 hgives
  · exact h.trans (h.trans (h.code hfirst) (h.takes hmark)) (h.code hsecond)
  · exact h.trans (h.code hfirst) (h.takes hmark)
  · exact h.code hfirst
  · exact h.refl parser

theorem labelName {label : Option String} (hgives : (labelName parser).Gives label after) :
    holds parser after := by
  obtain ⟨-, name, middle, hname, equals, hequals, -⟩ | ⟨-, -, rfl⟩ := labelName_gives.1 hgives
  · exact h.trans (h.takes hname) (h.takes hequals)
  · exact h.refl parser

theorem codeBehind {code : Option CodeSegment} (hgives : (codeBehind parser).Gives code after) :
    holds parser after := by
  obtain ⟨-, segment, hsegment, -⟩ | ⟨-, -, rfl⟩ := codeBehind_gives.1 hgives
  · exact h.code hsegment
  · exact h.refl parser

end StepwiseAround

namespace Stepwise

variable {holds : Parser → Parser → Prop} (h : Stepwise holds) {parser after : Parser}

include h

mutual

theorem branches {parser after : Parser} {found : List Branch}
    (hgives : (parser.branches).Gives found after) : holds parser after := by
  obtain ⟨first, middle, hfirst, ⟨bar, behind, hbar, others, hmore, -⟩ | ⟨-, -, rfl⟩⟩ :=
    branches_gives.1 hgives
  · have hmiddle := components (branch_gives.1 hfirst).1
    exact h.trans (h.trans hmiddle (h.takes hbar)) (branches hmore)
  · exact components (branch_gives.1 hfirst).1
termination_by 4 * parser.remaining + 3
decreasing_by
  · omega
  · have hless := hfirst.remaining_le
    have hless' := hbar.remaining_le
    omega
  · omega

theorem components {parser after : Parser} {found : List Component}
    (hgives : (parser.components).Gives found after) : holds parser after := by
  obtain ⟨-, -, rfl⟩ | ⟨-, first, middle, hfirst, others, hmore, -⟩ := components_gives.1 hgives
  · exact h.refl parser
  · exact h.trans (component hfirst) (components hmore)
termination_by 4 * parser.remaining + 2
decreasing_by
  · omega
  · have hless := hfirst.remaining_le
    omega

theorem component {parser after : Parser} {found : Component}
    (hgives : (parser.component).Gives found after) : holds parser after := by
  obtain ⟨atLabel, hinFront, atElement, hlabel, atSuffixes, helement, atCode, hsuffixes, hbehind,
    -⟩ := component_gives.1 hgives
  have hbefore := h.trans (h.codeInFront hinFront) (h.labelName hlabel)
  have hbehind := h.trans (h.suffixes hsuffixes) (h.codeBehind hbehind)
  exact h.trans (h.trans hbefore (element helement)) hbehind
termination_by 4 * parser.remaining + 1
decreasing_by
  have hless := hinFront.remaining_le
  have hless' := hlabel.remaining_le
  omega

theorem element {parser after : Parser} {found : Element}
    (hgives : (parser.element).Gives found after) : holds parser after := by
  obtain ⟨sign, middle, hsign, inner, hinner, -⟩ | ⟨-, ⟨opening, inside, hopening, inner, behind,
    hinner, closing, hclosing, -⟩ | ⟨-, id, hterminal, -⟩⟩ := element_gives.1 hgives
  · exact h.trans (h.takes hsign) (element hinner)
  · exact h.trans (h.trans (h.takes hopening) (branches hinner)) (h.takes hclosing)
  · exact h.terminal hterminal
termination_by 4 * parser.remaining
decreasing_by
  · have hless := hsign.remaining_le
    omega
  · have hless := hopening.remaining_le
    omega

end

theorem production {production : Production}
    (hgives : (parser.production).Gives production after) : holds parser after := by
  obtain ⟨name, atColon, hname, colon, inside, hcolon, atEnd, hbranches, semicolon, last,
    hsemicolon, -, rfl, -⟩ := production_gives.1 hgives
  have hfront := h.trans (h.takes hname) (h.takes hcolon)
  have hlast := h.trans (h.trans hfront (h.branches hbranches)) (h.takes hsemicolon)
  exact h.trans hlast (h.tell ..)

theorem productions {parser after : Parser} {found : List Production}
    (hgives : (parser.productions).Gives found after) : holds parser after := by
  obtain ⟨-, first, middle, hfirst, others, hmore, -⟩ | ⟨-, -, rfl⟩ := productions_gives.1 hgives
  · exact h.trans (h.production hfirst) (productions hmore)
  · exact h.refl parser
termination_by parser.remaining
decreasing_by
  have hless := hfirst.remaining_le
  omega

end Stepwise

end Parser

/-! ## Terminals as they are read -/

namespace Arena

/-- The terminals of the arena are such as can be read from a text. -/
structure Tidy (arena : Arena) : Prop where
  /-- Names are names. -/
  names : ∀ name, .ident name ∈ arena.terminals → IsName name.toList
  /-- Sets were read as literals. -/
  literals : ∀ set, .set set ∈ arena.terminals → SetLiteral set.source set.flags
  /-- No two of them are the same. -/
  nodup : arena.keys.Nodup

theorem tidy_empty : Arena.empty.Tidy :=
  ⟨fun _ => List.not_mem_nil.elim, fun _ => List.not_mem_nil.elim, List.nodup_nil⟩

/-- No two terminals become the same where another one is added. -/
theorem nodup_intern {arena : Arena} (h : arena.keys.Nodup) (terminal : Terminal) :
    (arena.intern terminal).2.keys.Nodup := by
  rw [intern, findIdx?_same]
  split
  · exact h
  · rename_i hfresh
    rw [List.findIdx?_eq_none_iff] at hfresh
    rw [keys, List.map_append, List.map_singleton, List.nodup_append]
    refine ⟨h, List.nodup_singleton _, fun key hkey other hother => ?_⟩
    rw [List.mem_singleton.1 hother]
    exact fun heq => of_decide_eq_false (hfresh key hkey) heq.symm

/-- An arena stays tidy where a terminal is added that is such as can be read. -/
theorem Tidy.intern {arena : Arena} {terminal : Terminal} (h : arena.Tidy)
    (hname : ∀ name, terminal = .ident name → IsName name.toList)
    (hset : ∀ set, terminal = .set set → SetLiteral set.source set.flags) :
    (arena.intern terminal).2.Tidy := by
  have hnodup := nodup_intern h.nodup terminal
  rw [Arena.intern] at hnodup ⊢
  split
  · exact h
  · rename_i hnone
    rw [hnone] at hnodup
    refine ⟨fun name hmem => ?_, fun set hmem => ?_, hnodup⟩
    · rcases List.mem_append.1 hmem with hmem | hmem
      · exact h.names name hmem
      · exact hname name (List.mem_singleton.1 hmem).symm
    · rcases List.mem_append.1 hmem with hmem | hmem
      · exact h.literals set hmem
      · exact hset set (List.mem_singleton.1 hmem).symm

end Arena

namespace Parser

variable {parser after : Parser} {text : List Char}

/-- What is taken for a name is one. -/
theorem Stands.isName_of_takes {token : Token} (h : parser.Stands [] text)
    (htakes : parser.Takes [ident] token after) : IsName token.text.toList := by
  obtain ⟨set, hskips, hoffers⟩ := htakes.offers
  have hsees : parser.sees ident = true := (sees_iff hskips.1).2 ⟨token, hoffers⟩
  rw [h.sees_ident_eq] at hsees
  obtain ⟨name, rest, hname, -, hmeets⟩ := exists_meets_name hsees
  obtain ⟨-, -, htext, -⟩ := h.of_takes hmeets htakes
  rwa [htext, String.toList_ofList]

/-- The parser comes to stand further on, and its arena stays tidy, if there is a closing brace
behind. -/
def Collects (parser after : Parser) : Prop :=
  ∀ text, parser.Stands [] text → ∃ text', after.Stands [] text' ∧ text' <:+ text ∧
    ('\x7d' ∈ text' → parser.arena.Tidy → after.arena.Tidy)

/-- Reading code adds no terminal. -/
theorem codeSegment_arena {code : CodeSegment} (h : parser.Stands [] text)
    (hgives : (codeSegment parser).Gives code after) : after.arena = parser.arena := by
  obtain ⟨opening, inside, hopening, behind, htokens, closing, hclosing, -⟩ :=
    codeSegment_gives.1 hgives
  obtain ⟨openingSet, hskipsOpening, -⟩ := hopening.offers
  obtain ⟨closingSet, hskipsClosing, -⟩ := hclosing.offers
  obtain ⟨inner, text', hgathers, -⟩ :=
    codeTokens_spells (h.skip_enter hskipsOpening).stands htokens
  calc after.arena = behind.arena := hskipsClosing.arena_eq
    _ = inside.arena := hgathers.arena_eq
    _ = parser.arena := hskipsOpening.arena_eq

/-- Taking a token adds no terminal. -/
theorem Takes.collects {rules : List String} {token : Token} (htakes : parser.Takes rules token after) :
    parser.Collects after := by
  intro text h
  obtain ⟨set, hskips, -⟩ := htakes.skips
  have hafter := h.skip hskips
  exact ⟨_, hafter.stands, hafter.suffix, fun _ htidy => hskips.arena_eq ▸ htidy⟩

/-- A terminal that is read is added: if it is a name it is one, and if it is a set it is a literal. -/
theorem terminal_collects {id : TerminalId} (hgives : (terminal parser).Gives id after) :
    parser.Collects after := by
  intro text h
  have htaken {rules : List String} {token : Token} {middle : Parser} {value : Terminal}
      (htakes : parser.Takes rules token middle)
      (hname : ∀ name, value = .ident name → IsName name.toList) (hset : ∀ set, value ≠ .set set)
      (hintern : (middle.intern value).Gives id after) :
      ∃ text', after.Stands [] text' ∧ text' <:+ text ∧
        ('\x7d' ∈ text' → parser.arena.Tidy → after.arena.Tidy) := by
    obtain ⟨text', hmiddle, hsuffix, htidy⟩ := htakes.collects text h
    obtain ⟨-, rfl⟩ := gives_intern.1 hintern
    exact ⟨text', ⟨hmiddle.table, hmiddle.entered_eq, hmiddle.at_text⟩, hsuffix,
      fun hbrace hparser => (htidy hbrace hparser).intern hname fun set heq => absurd heq (hset set)⟩
  obtain ⟨token, middle, htoken, hintern⟩ | ⟨-, ⟨token, middle, htoken, hintern⟩ |
    ⟨-, ⟨token, middle, htoken, hintern⟩ | ⟨-, hsees, set, middle, hset, hintern⟩⟩⟩ :=
    terminal_gives.1 hgives
  · refine htaken htoken ?_ (by simp) hintern
    rintro _ ⟨⟩
    exact h.isName_of_takes htoken
  · exact htaken htoken (by simp) (by simp) hintern
  · exact htaken htoken (by simp) (by simp) hintern
  · obtain ⟨text', hmiddle, harena, hgap, -, hliteral⟩ := h.of_regexLiteral hsees hset
    have hsuffix : text' <:+ text := by
      refine List.IsSuffix.trans ?_ (behindGap_suffix text)
      exact ⟨'/' :: (set.source.toList ++ '/' :: set.flags.toList), by simp [hgap]⟩
    obtain ⟨-, rfl⟩ := gives_intern.1 hintern
    refine ⟨text', ⟨hmiddle.table, hmiddle.entered_eq, hmiddle.at_text⟩, hsuffix,
      fun hbrace hparser => (harena ▸ hparser).intern (by simp) ?_⟩
    rintro _ ⟨⟩
    exact hliteral hbrace

theorem stepwise_collects : Stepwise Collects where
  refl _ text h := ⟨text, h, List.suffix_rfl, fun _ => id⟩
  trans hfirst hsecond text h := by
    obtain ⟨text', hmiddle, hsuffix, htidy⟩ := hfirst text h
    obtain ⟨text'', hafter, hsuffix', htidy'⟩ := hsecond text' hmiddle
    exact ⟨text'', hafter, hsuffix'.trans hsuffix, fun hbrace =>
      htidy' hbrace ∘ htidy (hsuffix'.subset hbrace)⟩
  takes := Takes.collects
  code hgives text h := by
    obtain ⟨sets, text', hafter, -⟩ := codeSegment_spells h hgives
    exact ⟨text', hafter.stands, hafter.suffix, fun _ htidy => codeSegment_arena h hgives ▸ htidy⟩
  terminal := terminal_collects
  tell parser detail message text h := ⟨text, (h.tell detail message).stands, List.suffix_rfl,
    fun _ => id⟩

/-- The terminals of a grammar that is read are such as can be read. -/
theorem wholeGrammar_tidy {grammar : Grammar} (h : parser.Stands [] text)
    (htidy : parser.arena.Tidy) (hgives : (wholeGrammar parser).Gives grammar after) :
    grammar.arena.Tidy := by
  obtain ⟨keyword, atName, hkeyword, name, atOpening, hname, opening, inside, hopening, atClosing,
    hproductions, hsees, closing, hclosing, -, -, harena, -⟩ := wholeGrammar_gives.1 hgives
  have hstep := stepwise_collects
  have hfront := hstep.trans (hstep.trans (hkeyword.collects) hname.collects) hopening.collects
  obtain ⟨text', hatClosing, -, hcollects⟩ := hstep.trans hfront (hstep.productions hproductions) text h
  -- The parser stands at the closing brace.
  have hsign : '\x7d' ∈ signChars := by decide
  have hbrace : '\x7d' ∈ text' := hatClosing.mem_of_sees_sign hsign hsees
  obtain ⟨set, hskips, -⟩ := hclosing.skips
  rw [harena, hskips.arena_eq]
  exact hcollects hbrace htidy

end Parser

/-- **The terminals of a parsed grammar are tidy**: names are names, sets are literals that were read
between slashes, and no two terminals are the same. -/
theorem tidy_of_parse {source : Source} {grammar : Grammar}
    (h : (parse source).result = .ok grammar) : grammar.arena.Tidy := by
  obtain ⟨table, scanner, after, htable, hcreate, hgives⟩ := parse_eq_ok_iff.1 h
  obtain ⟨hstands, -⟩ := Parser.stands_create .empty htable hcreate
  exact Parser.wholeGrammar_tidy hstands Arena.tidy_empty hgives

end GrammarLang.Grammar

import GrammarLang.Proofs.Grammar.Ahead
import GrammarLang.Proofs.Grammar.CodeClosed
import GrammarLang.Proofs.Grammar.CodeGaps
import GrammarLang.Proofs.Grammar.ParsedTerminals

/-! # Parsed grammars can be written

A grammar that a text is parsed to has names, labels, suffixes and branches such as can be written,
and its arena lists the terminals in the order of their first occurrence: **`inOrder_of_parse`**. If
the code in it is closed, all of it can be written: **`writable_of_parse`**. Code between two
components has been taken for the first of them, and code behind a suffix starts with no number.

The functions of the parser are followed once more, each with the terminals that it numbers and the
part of the tree that it gives: **`Parser.Yields`**. -/

namespace GrammarLang.Grammar

open GrammarLang.Scan GrammarLang.Text

open Lexicon (ident number)

/-! ## Code in a tree -/

mutual

/-- The code in a branch. -/
def Branch.codes : Branch → List CodeSegment
  | ⟨_, components⟩ => codesOfComponents components

/-- The code in components. -/
def codesOfComponents : List Component → List CodeSegment
  | [] => []
  | first :: others => first.codes ++ codesOfComponents others

/-- The code in a component. -/
def Component.codes : Component → List CodeSegment
  | ⟨_, _, predicate, codeBefore, element, _, codeAfter⟩ =>
    predicate.toList ++ codeBefore.toList ++ element.codes ++ codeAfter.toList

/-- The code in an element. -/
def Element.codes : Element → List CodeSegment
  | .terminal _ => []
  | .group _ branches => codesOfBranches branches
  | .negation inner => inner.codes

/-- The code in branches. -/
def codesOfBranches : List Branch → List CodeSegment
  | [] => []
  | first :: others => first.codes ++ codesOfBranches others

end

/-- The code in a grammar. -/
def codes (grammar : Grammar) : List CodeSegment :=
  grammar.productions.flatMap fun production => codesOfBranches production.branches

/-! ## Suffixes -/

namespace Suffix

/-- A suffix that is made from bounds in order is the usual one for them. -/
theorem canonical_ofBounds {lower : UInt64} {upper : Option UInt64}
    (h : ∀ bound ∈ upper, lower ≤ bound) : (ofBounds lower upper).Canonical := by
  constructor
  · rw [bounds_ofBounds]
  · rw [bounds_ofBounds]
    exact h

/-- A suffix with a sign of its own is the usual one. -/
theorem canonical_ofSign (sign : String) : (ofSign sign).Canonical := by
  unfold ofSign
  split
  · exact @canonical_ofBounds 0 none nofun
  · exact @canonical_ofBounds 1 none nofun
  · exact @canonical_ofBounds 0 (some 1) (by rintro _ ⟨⟩; decide)

end Suffix

/-! ## Numbering -/

theorem Numbered.le {known later : Nat} {ids : List TerminalId} (h : Numbered known ids later) :
    known ≤ later := by
  induction h with
  | nil => exact Nat.le_refl _
  | old _ _ ih => exact ih
  | new _ _ ih => omega

/-- Terminals that are numbered are found below the last number. -/
theorem Numbered.lt {known later : Nat} {ids : List TerminalId} (h : Numbered known ids later) :
    ∀ id ∈ ids, id.index < later := by
  induction h with
  | nil => exact fun _ => List.not_mem_nil.elim
  | old met others ih =>
    intro id hmem
    rcases List.mem_cons.1 hmem with rfl | hmem
    · exact Nat.lt_of_lt_of_le met others.le
    · exact ih id hmem
  | new next others ih =>
    intro id hmem
    rcases List.mem_cons.1 hmem with rfl | hmem
    · have hle := others.le
      omega
    · exact ih id hmem

/-- Terminals that are numbered occur first in order. -/
theorem eraseDups_of_numbered {ids : List TerminalId} {count : Nat} (h : Numbered 0 ids count) :
    ids.eraseDups = (List.range count).map TerminalId.mk := by
  induction ids using List.reverseRecOn generalizing count with
  | nil =>
    cases h
    rfl
  | append_singleton ids id ih =>
    obtain ⟨middle, hids, hlast⟩ := numbered_append.1 h
    have hsoFar := ih hids
    have hmem : id ∈ ids ↔ id.index < middle := by
      rw [← List.mem_eraseDups, hsoFar, List.mem_map]
      constructor
      · rintro ⟨index, hindex, rfl⟩
        exact List.mem_range.1 hindex
      · intro hlt
        exact ⟨id.index, List.mem_range.2 hlt, rfl⟩
    rw [List.eraseDups_append, hsoFar]
    cases hlast with
    | old met others =>
      cases others
      have hnone : [id].removeAll ids = [] := by simp [List.removeAll, hmem.2 met]
      rw [hnone, List.eraseDups_nil, List.append_nil]
    | new next others =>
      cases others
      have hfresh : id ∉ ids := fun hold => absurd (hmem.1 hold) (by omega)
      have hall : ([id].removeAll ids).eraseDups = [id] := by
        simp [List.removeAll, hfresh, List.eraseDups_cons]
      rw [hall, List.range_succ, List.map_append, ← next]
      rfl

namespace Arena

/-- The terminals that are added to an arena are numbered. -/
theorem numbered_intern (arena : Arena) (terminal : Terminal) :
    Numbered arena.size [(arena.intern terminal).1] (arena.intern terminal).2.size := by
  rw [intern]
  split
  · rename_i index hfound
    obtain ⟨hlt, -⟩ := List.findIdx?_eq_some_iff_getElem.1 hfound
    exact .old hlt .nil
  · have hsize : size ⟨arena.terminals ++ [terminal]⟩ = arena.size + 1 := by simp [size]
    rw [hsize]
    exact .new rfl .nil

/-- The first `count` places of the arena have terminals that can be written. -/
def Provides (arena : Arena) (count : Nat) : Prop :=
  ∀ id : TerminalId, id.index < count → ∃ terminal, arena.get? id = some terminal ∧ terminal.Writable

theorem Provides.mono {arena : Arena} {count more : Nat} (h : arena.Provides more)
    (hle : count ≤ more) : arena.Provides count := fun id hlt => h id (Nat.lt_of_lt_of_le hlt hle)

end Arena

namespace Parser

variable {parser middle after : Parser} {text : List Char}

/-! ## What stands around an element -/

/-- The parser comes to stand further on and adds no terminal. -/
def Stays (parser after : Parser) : Prop :=
  ∀ text, parser.Stands [] text → ∃ text', after.Stands [] text' ∧ after.arena = parser.arena

theorem stepwise_stays : StepwiseAround Stays where
  refl _ text h := ⟨text, h, rfl⟩
  trans hfirst hsecond text h := by
    obtain ⟨text', hmiddle, harena⟩ := hfirst text h
    obtain ⟨text'', hafter, harena'⟩ := hsecond text' hmiddle
    exact ⟨text'', hafter, harena'.trans harena⟩
  takes htakes text h := by
    obtain ⟨set, hskips, -⟩ := htakes.skips
    exact ⟨_, (h.skip hskips).stands, hskips.arena_eq⟩
  code hgives text h := by
    obtain ⟨sets, text', hafter, -⟩ := codeSegment_spells h hgives
    exact ⟨text', hafter.stands, codeSegment_arena h hgives⟩

/-- Telling something adds no terminal. -/
theorem stays_tell (parser : Parser) (detail : Detail) (message : String) :
    parser.Stays (parser.tell detail message) :=
  fun text h => ⟨text, (h.tell detail message).stands, rfl⟩

/-- A label that is read is a name. -/
theorem labelName_isName {label : Option String} (h : parser.Stands [] text)
    (hgives : (labelName parser).Gives label after) : ∀ name ∈ label, IsName name.toList := by
  obtain ⟨-, name, middle, hname, equals, hequals, rfl⟩ | ⟨-, rfl, -⟩ := labelName_gives.1 hgives
  · rintro _ ⟨⟩
    exact h.isName_of_takes hname
  · nofun

/-- Suffixes that are read are the usual ones, and behind them there is no range. -/
theorem suffixes_canonical {parser after : Parser} {suffixes : List Suffix}
    (hgives : (parser.suffixes).Gives suffixes after) :
    (∀ suffix ∈ suffixes, suffix.Canonical) ∧ after.Foresees ["\x7b", number] false := by
  have hcons {first : Suffix} {others : List Suffix} (hfirst : first.Canonical)
      (hothers : (∀ suffix ∈ others, suffix.Canonical) ∧ after.Foresees ["\x7b", number] false) :
      (∀ suffix ∈ first :: others, suffix.Canonical) ∧ after.Foresees ["\x7b", number] false :=
    ⟨List.forall_mem_cons.2 ⟨hfirst, hothers.1⟩, hothers.2⟩
  obtain ⟨sign, middle, hsign, others, hmore, rfl⟩ | ⟨-, ⟨-, first, middle, hfirst, others, hmore,
    rfl⟩ | ⟨hnone, rfl, rfl⟩⟩ := suffixes_gives.1 hgives
  · exact hcons (Suffix.canonical_ofSign sign.rule) (suffixes_canonical hmore)
  · obtain ⟨_, _, _, lowest, _, _, upper, _, _, _, _, hbound, rfl⟩ := rangeSuffix_gives.1 hfirst
    exact hcons (Suffix.canonical_ofBounds hbound) (suffixes_canonical hmore)
  · exact ⟨fun _ => List.not_mem_nil.elim, hnone⟩
termination_by parser.remaining
decreasing_by
  · have hless := hsign.remaining_le
    omega
  · have hless := hfirst.remaining_le
    omega

/-- Code that is read where no range is foreseen starts with no number, if it is closed. -/
theorem codeBehind_unnumbered {code : CodeSegment} (h : parser.Stands [] text)
    (hnone : parser.Foresees ["\x7b", number] false)
    (hgives : (codeBehind parser).Gives (some code) after) (hclosed : code.Closed) :
    code.Unnumbered := by
  obtain ⟨hsees, segment, hsegment, hcode⟩ | ⟨-, hcode, -⟩ := codeBehind_gives.1 hgives
  · obtain rfl := Option.some.inj hcode
    rw [h.foresees_iff .number .number, hsees, Bool.true_and] at hnone
    have hopening : '\x7b' ∈ signChars := by decide
    have htold : ToldBy "\x7b" (· = '\x7b') := ToldBy.sign hopening
    rw [h.sees_eq htold] at hsees
    obtain ⟨c, hlead, heq⟩ := (Option.any_eq_true _ _).1 hsees
    obtain rfl := of_decide_eq_true heq
    obtain ⟨cs, hgap⟩ := List.head?_eq_some_iff.1 hlead
    have hmeets : Meets text ["\x7b"] ['\x7b'] cs := ⟨hgap, fun _ h => word_sign h hopening cs⟩
    obtain ⟨-, -, -, -, hrest, -⟩ := h.shows hmeets
    obtain ⟨rest, htext, -⟩ := h.of_codeSegment hgap hsegment
    obtain ⟨d, hall⟩ := hclosed.exists_lead
    rw [hrest, htext, hall rest] at hnone
    intro behind
    rw [hall behind]
    exact hnone.symm
  · contradiction

/-- Where there is no brace, there is no code in front of a component. -/
theorem component_bare {component : Component} (hgives : (parser.component).Gives component after)
    (hsees : parser.sees "\x7b" = false) : component.Bare := by
  obtain ⟨atLabel, hfront, -⟩ := component_gives.1 hgives
  obtain ⟨hbrace, -⟩ | ⟨-, hpredicate, hcode, -⟩ := codeInFront_gives.1 hfront
  · rw [hsees] at hbrace
    contradiction
  · exact ⟨hpredicate.symm, hcode.symm⟩

/-- Behind a component without code behind it there is no brace. -/
theorem component_not_sees_brace {component : Component}
    (hgives : (parser.component).Gives component after) (hnone : component.codeAfter = none) :
    after.sees "\x7b" = false := by
  obtain ⟨-, -, -, -, -, -, atCode, -, hbehind, -⟩ := component_gives.1 hgives
  obtain ⟨-, segment, -, hcode⟩ | ⟨hsees, -, rfl⟩ := codeBehind_gives.1 hbehind
  · rw [hnone] at hcode
    contradiction
  · exact hsees

/-! ## What is read -/

/-- The parser comes to stand further on, where it has met these terminals, and what it has read can
be written with every arena that has them. -/
structure Yields (parser : Parser) (leaves : List TerminalId) (after : Parser)
    (writable : Arena → Prop) : Prop where
  /-- It stands further on. -/
  stands : ∃ text, after.Stands [] text
  /-- It has added the terminals that it had not met before. -/
  numbered : Numbered parser.arena.size leaves after.arena.size
  /-- What it has read can be written. -/
  writable : ∀ arena : Arena, arena.Provides after.arena.size → writable arena

namespace Yields

variable {leaves further : List TerminalId} {writable writable' : Arena → Prop}

/-- What is read in two parts can be written if both parts can be. -/
theorem append (h : parser.Yields leaves middle writable)
    (h' : middle.Yields further after writable') :
    parser.Yields (leaves ++ further) after fun arena => writable arena ∧ writable' arena :=
  ⟨h'.stands, numbered_append.2 ⟨_, h.numbered, h'.numbered⟩, fun arena hprovides =>
    ⟨h.writable arena (hprovides.mono h'.numbered.le), h'.writable arena hprovides⟩⟩

theorem mono (h : parser.Yields leaves after writable)
    (himp : ∀ arena, writable arena → writable' arena) : parser.Yields leaves after writable' :=
  ⟨h.stands, h.numbered, fun arena hprovides => himp arena (h.writable arena hprovides)⟩

/-- A step in front that adds no terminal makes no difference. -/
theorem behind (h : middle.Yields leaves after writable) (harena : middle.arena = parser.arena) :
    parser.Yields leaves after writable := ⟨h.stands, harena ▸ h.numbered, h.writable⟩

/-- A step behind that adds no terminal makes no difference. -/
theorem onward (h : parser.Yields leaves middle writable) (hstays : middle.Stays after) :
    parser.Yields leaves after writable := by
  obtain ⟨text, hmiddle⟩ := h.stands
  obtain ⟨text', hafter, harena⟩ := hstays text hmiddle
  exact ⟨⟨text', hafter⟩, harena ▸ h.numbered, harena ▸ h.writable⟩

end Yields

/-- A terminal that is read is met, and it is there in the arena. -/
theorem terminal_yields {id : TerminalId} (h : parser.Stands [] text)
    (hgives : (terminal parser).Gives id after) :
    parser.Yields [id] after fun arena => (Element.terminal id).Writable arena := by
  have hintern {middle : Parser} {value : Terminal} {text' : List Char}
      (hmiddle : middle.Stands [] text') (harena : middle.arena = parser.arena)
      (hgives : (middle.intern value).Gives id after) :
      parser.Yields [id] after fun arena => (Element.terminal id).Writable arena := by
    obtain ⟨rfl, rfl⟩ := gives_intern.1 hgives
    have hnumbered := middle.arena.numbered_intern value
    refine ⟨⟨text', hmiddle.table, hmiddle.entered_eq, hmiddle.at_text⟩, harena ▸ hnumbered,
      fun arena hprovides => ?_⟩
    exact hprovides _ (hnumbered.lt _ (List.mem_singleton_self _))
  have htaken {rules : List String} {token : Token} {middle : Parser} {value : Terminal}
      (htakes : parser.Takes rules token middle) (hgives : (middle.intern value).Gives id after) :
      parser.Yields [id] after fun arena => (Element.terminal id).Writable arena := by
    obtain ⟨text', hmiddle, harena⟩ := stepwise_stays.takes htakes text h
    exact hintern hmiddle harena hgives
  obtain ⟨token, middle, htoken, hgives⟩ | ⟨-, ⟨token, middle, htoken, hgives⟩ |
    ⟨-, ⟨token, middle, htoken, hgives⟩ | ⟨-, hsees, set, middle, hset, hgives⟩⟩⟩ :=
    terminal_gives.1 hgives
  · exact htaken htoken hgives
  · exact htaken htoken hgives
  · exact htaken htoken hgives
  · obtain ⟨text', hmiddle, harena, -⟩ := h.of_regexLiteral hsees hset
    exact hintern hmiddle harena hgives

mutual

theorem branches_yield {parser after : Parser} {text : List Char} {branches : List Branch}
    (h : parser.Stands [] text) (hgives : (parser.branches).Gives branches after) :
    parser.Yields (leavesOfBranches branches) after fun arena => branches ≠ [] ∧
      ((∀ code ∈ codesOfBranches branches, code.Closed) → WritableBranches arena branches) := by
  obtain ⟨⟨span, components⟩, middle, hfirst, hrest⟩ := branches_gives.1 hgives
  have hmiddle := components_yield h (branch_gives.1 hfirst).1
  obtain ⟨bar, behind, hbar, others, hmore, rfl⟩ | ⟨-, rfl, rfl⟩ := hrest
  · have hbehind := hmiddle.onward (stepwise_stays.takes hbar)
    obtain ⟨text', hstands⟩ := hbehind.stands
    refine (hbehind.append (branches_yield hstands hmore)).mono fun arena hboth =>
      ⟨List.cons_ne_nil _ _, fun hclosed => ?_⟩
    rw [codesOfBranches, Branch.codes, List.forall_mem_append] at hclosed
    exact ⟨hboth.1 hclosed.1, hboth.2.2 hclosed.2⟩
  · rw [leavesOfBranches, leavesOfBranches, Branch.leaves, List.append_nil]
    refine hmiddle.mono fun arena hwritable => ⟨List.cons_ne_nil _ _, fun hclosed => ?_⟩
    rw [codesOfBranches, codesOfBranches, Branch.codes, List.append_nil] at hclosed
    exact ⟨hwritable hclosed, trivial⟩
termination_by 4 * parser.remaining + 3
decreasing_by
  · omega
  · have hless := hfirst.remaining_le
    have hless' := hbar.remaining_le
    omega

theorem components_yield {parser after : Parser} {text : List Char} {components : List Component}
    (h : parser.Stands [] text) (hgives : (parser.components).Gives components after) :
    parser.Yields (leavesOfComponents components) after fun arena =>
      (∀ code ∈ codesOfComponents components, code.Closed) → WritableComponents arena components := by
  obtain ⟨-, rfl, rfl⟩ | ⟨-, first, middle, hfirst, others, hmore, rfl⟩ :=
    components_gives.1 hgives
  · exact ⟨⟨text, h⟩, .nil, fun _ _ _ => trivial⟩
  · have hmiddle := component_yields h hfirst
    obtain ⟨text', hstands⟩ := hmiddle.stands
    -- Code behind the first component would have been taken for that.
    have hadjacent (hnone : first.codeAfter = none) : ∀ second ∈ others.head?, second.Bare := by
      obtain ⟨-, rfl, -⟩ | ⟨-, second, last, hsecond, further, -, rfl⟩ := components_gives.1 hmore
      · nofun
      · rintro _ ⟨⟩
        exact component_bare hsecond (component_not_sees_brace hfirst hnone)
    refine (hmiddle.append (components_yield hstands hmore)).mono fun arena hboth hclosed => ?_
    rw [codesOfComponents, List.forall_mem_append] at hclosed
    exact ⟨hboth.1 hclosed.1, hboth.2 hclosed.2, hadjacent⟩
termination_by 4 * parser.remaining + 2
decreasing_by
  · omega
  · have hless := hfirst.remaining_le
    omega

theorem component_yields {parser after : Parser} {text : List Char} {component : Component}
    (h : parser.Stands [] text) (hgives : (parser.component).Gives component after) :
    parser.Yields component.leaves after fun arena =>
      (∀ code ∈ component.codes, code.Closed) → component.Writable arena := by
  obtain ⟨atLabel, hinFront, atElement, hlabel, atSuffixes, helement, atCode, hsuffixes, hbehind,
    -⟩ := component_gives.1 hgives
  obtain ⟨span, label, predicate, codeBefore, element, suffixes, codeAfter⟩ := component
  obtain ⟨text₁, hatLabel, harena⟩ := stepwise_stays.codeInFront hinFront text h
  obtain ⟨text₂, hatElement, harena'⟩ := stepwise_stays.labelName hlabel text₁ hatLabel
  have hatSuffixes := (element_yields hatElement helement).behind (harena'.trans harena)
  have hatCode := hatSuffixes.onward (stepwise_stays.suffixes hsuffixes)
  obtain ⟨text₃, hstands⟩ := hatCode.stands
  obtain ⟨hcanonical, hnone⟩ := suffixes_canonical hsuffixes
  refine (hatCode.onward (stepwise_stays.codeBehind hbehind)).mono fun arena hwritable hclosed => ?_
  simp only [Component.codes, List.forall_mem_append, Option.mem_toList] at hclosed
  obtain ⟨⟨⟨hpredicate, hbefore⟩, hinner⟩, hcodeAfter⟩ := hclosed
  have hcode : ∀ code ∈ codeAfter, code.Closed ∧ code.Unnumbered := by
    rintro code rfl
    exact ⟨hcodeAfter code rfl, codeBehind_unnumbered hstands hnone hbehind (hcodeAfter code rfl)⟩
  exact ⟨⟨hpredicate, hbefore, hcode⟩, labelName_isName hatLabel hlabel, hwritable hinner, hcanonical⟩
termination_by 4 * parser.remaining + 1
decreasing_by
  have hless := hinFront.remaining_le
  have hless' := hlabel.remaining_le
  omega

theorem element_yields {parser after : Parser} {text : List Char} {element : Element}
    (h : parser.Stands [] text) (hgives : (parser.element).Gives element after) :
    parser.Yields element.leaves after fun arena =>
      (∀ code ∈ element.codes, code.Closed) → element.Writable arena := by
  obtain ⟨sign, middle, hsign, inner, hinner, rfl⟩ | ⟨-, ⟨opening, inside, hopening, inner, behind,
    hinner, closing, hclosing, rfl⟩ | ⟨-, id, hterminal, rfl⟩⟩ := element_gives.1 hgives
  · obtain ⟨text', hmiddle, harena⟩ := stepwise_stays.takes hsign text h
    exact (element_yields hmiddle hinner).behind harena
  · obtain ⟨text', hinside, harena⟩ := stepwise_stays.takes hopening text h
    have hbehind := (branches_yield hinside hinner).behind harena
    exact (hbehind.onward (stepwise_stays.takes hclosing)).mono fun arena hboth hclosed =>
      ⟨hboth.1, hboth.2 hclosed⟩
  · exact (terminal_yields h hterminal).mono fun arena hwritable _ => hwritable
termination_by 4 * parser.remaining
decreasing_by
  · have hless := hsign.remaining_le
    omega
  · have hless := hopening.remaining_le
    omega

end

/-! ## Productions and grammars -/

theorem production_yields {production : Production} (h : parser.Stands [] text)
    (hgives : (parser.production).Gives production after) :
    parser.Yields (leavesOfBranches production.branches) after fun arena =>
      (∀ code ∈ codesOfBranches production.branches, code.Closed) → production.Writable arena := by
  obtain ⟨name, atColon, hname, colon, inside, hcolon, atEnd, hbranches, semicolon, last,
    hsemicolon, hnamed, rfl, -⟩ := production_gives.1 hgives
  obtain ⟨text', hinside, harena⟩ :=
    stepwise_stays.trans (stepwise_stays.takes hname) (stepwise_stays.takes hcolon) text h
  have hatEnd := (branches_yield hinside hbranches).behind harena
  have hlast := hatEnd.onward (stepwise_stays.takes hsemicolon)
  refine (hlast.onward (last.stays_tell _ _)).mono fun arena hboth hclosed =>
    ⟨?_, hboth.1, hboth.2 hclosed⟩
  rw [hnamed]
  exact h.isName_of_takes hname

theorem productions_yield {parser after : Parser} {text : List Char} {productions : List Production}
    (h : parser.Stands [] text) (hgives : (parser.productions).Gives productions after) :
    parser.Yields (leavesOfProductions productions) after fun arena => ∀ production ∈ productions,
      (∀ code ∈ codesOfBranches production.branches, code.Closed) → production.Writable arena := by
  obtain ⟨-, first, middle, hfirst, others, hmore, rfl⟩ | ⟨-, rfl, rfl⟩ :=
    productions_gives.1 hgives
  · have hmiddle := production_yields h hfirst
    obtain ⟨text', hstands⟩ := hmiddle.stands
    exact (hmiddle.append (productions_yield hstands hmore)).mono fun arena hboth =>
      List.forall_mem_cons.2 hboth
  · exact ⟨⟨text, h⟩, .nil, fun _ _ _ => List.not_mem_nil.elim⟩
termination_by parser.remaining
decreasing_by
  have hless := hfirst.remaining_le
  omega

/-- A grammar that is read, starting with an empty arena, has its terminals in order, and it can be
written if they can be and its code is closed. -/
theorem wholeGrammar_writable {grammar : Grammar} (h : parser.Stands [] text)
    (hempty : parser.arena = .empty) (hgives : (wholeGrammar parser).Gives grammar after) :
    Numbered 0 (leavesOfProductions grammar.productions) grammar.arena.size ∧
      (grammar.arena.Provides grammar.arena.size → (∀ code ∈ grammar.codes, code.Closed) →
        grammar.Writable) := by
  obtain ⟨keyword, atName, hkeyword, name, atOpening, hname, opening, inside, hopening, atClosing,
    hproductions, -, closing, hclosing, -, hnamed, harena, -⟩ := wholeGrammar_gives.1 hgives
  obtain ⟨text₁, hatName, harena₁⟩ := stepwise_stays.takes hkeyword text h
  obtain ⟨text₂, hinside, harena₂⟩ :=
    stepwise_stays.trans (stepwise_stays.takes hname) (stepwise_stays.takes hopening) text₁ hatName
  have hyields := (productions_yield hinside hproductions).onward (stepwise_stays.takes hclosing)
  have hstart : inside.arena.size = 0 := by
    rw [harena₂, harena₁, hempty]
    rfl
  rw [harena]
  refine ⟨hstart ▸ hyields.numbered, fun hprovides hclosed => ⟨?_, fun production hmem => ?_⟩⟩
  · rw [hnamed]
    exact hatName.isName_of_takes hname
  · rw [harena]
    exact hyields.writable after.arena hprovides production hmem fun code hcode =>
      hclosed code (List.mem_flatMap.2 ⟨production, hmem, hcode⟩)

end Parser

section

variable {source : Source} {grammar : Grammar}

/-- **The terminals of a parsed grammar are in order**: the arena lists them as they occur first, each
of them once. -/
theorem inOrder_of_parse (h : (parse source).result = .ok grammar) : grammar.InOrder := by
  obtain ⟨table, scanner, after, htable, hcreate, hgives⟩ := parse_eq_ok_iff.1 h
  obtain ⟨hstands, -⟩ := Parser.stands_create .empty htable hcreate
  obtain ⟨hnumbered, -⟩ := Parser.wholeGrammar_writable hstands rfl hgives
  exact ⟨eraseDups_of_numbered hnumbered, (tidy_of_parse h).nodup⟩

/-- The terminals of a parsed grammar can be written. -/
theorem provides_of_parse (h : (parse source).result = .ok grammar) :
    grammar.arena.Provides grammar.arena.size := by
  intro id hlt
  have hget := List.getElem?_eq_getElem (l := grammar.arena.terminals) hlt
  have hmem : grammar.arena.terminals[id.index] ∈ grammar.arena.terminals := List.getElem_mem hlt
  refine ⟨_, hget, ?_⟩
  generalize grammar.arena.terminals[id.index] = terminal at hmem
  cases terminal with
  | ident name => exact (tidy_of_parse h).names name hmem
  | string | number => exact trivial
  | set set => exact ⟨source, grammar, set, h, hmem, rfl, rfl⟩

/-- **Parsed grammars can be written**, if the code in them is closed. -/
theorem writable_of_parse (h : (parse source).result = .ok grammar)
    (hclosed : ∀ code ∈ grammar.codes, code.Closed) : grammar.Writable := by
  obtain ⟨table, scanner, after, htable, hcreate, hgives⟩ := parse_eq_ok_iff.1 h
  obtain ⟨hstands, -⟩ := Parser.stands_create .empty htable hcreate
  obtain ⟨-, hwritable⟩ := Parser.wholeGrammar_writable hstands rfl hgives
  exact hwritable (provides_of_parse h) hclosed

end

end GrammarLang.Grammar

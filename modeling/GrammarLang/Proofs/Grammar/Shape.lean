import GrammarLang.Proofs.Grammar.Nodes

/-! # The shape of a parsed grammar

Not every tree is the tree of a text. A grammar that is parsed is **`Shaped`**: its names are
identifiers, every choice has a branch, suffixes are the usual ones for their bounds, sets of texts
come from literals that open no comment, and code in front of a component can only stand behind code
that belongs to the component before it, as code behind a component is always taken for that.

Each of these is a matter of one function of the parser, or of two that follow each other. They are
proved of these functions, and hold of all nodes as every node is read: **`shaped_of_parse`**. -/

namespace GrammarLang.Grammar

open GrammarLang.Scan GrammarLang.Text

open Lexicon (ident)

/-! ## Letters -/

/-- Whether a text is a letter or an underscore, and then letters, digits and underscores. -/
def isIdentifier (name : String) : Bool :=
  match name.toList with
  | [] => false
  | c :: cs => (c.isAlpha || c = '_') && cs.all fun d => d.isAlphanum || d = '_'

example : isIdentifier "_a1" = true ∧ isIdentifier "1a" = false ∧ isIdentifier "" = false := by decide

/-- The underscore is told by its code. -/
theorem eq_underscore_iff (c : Char) : c = '_' ↔ c.toNat = 95 := by
  rw [Char.ext_iff, UInt32.ext_iff]
  rfl

/-- The letters are two ranges of codes. -/
theorem isAlpha_iff (c : Char) :
    c.isAlpha = true ↔ 65 ≤ c.toNat ∧ c.toNat ≤ 90 ∨ 97 ≤ c.toNat ∧ c.toNat ≤ 122 := by
  have hupper : c.isUpper = true ↔ 65 ≤ c.toNat ∧ c.toNat ≤ 90 := by
    show decide (65 ≤ c.val ∧ c.val ≤ 90) = true ↔ _
    rw [decide_eq_true_eq, UInt32.le_iff_toNat_le, UInt32.le_iff_toNat_le]
    rfl
  have hlower : c.isLower = true ↔ 97 ≤ c.toNat ∧ c.toNat ≤ 122 := by
    show (decide (97 ≤ c.val) && decide (c.val ≤ 122)) = true ↔ _
    rw [Bool.and_eq_true, decide_eq_true_eq, decide_eq_true_eq, UInt32.le_iff_toNat_le,
      UInt32.le_iff_toNat_le]
    rfl
  show (c.isUpper || c.isLower) = true ↔ _
  rw [Bool.or_eq_true, hupper, hlower]

theorem isAlphanum_iff (c : Char) : c.isAlphanum = true ↔
    (65 ≤ c.toNat ∧ c.toNat ≤ 90 ∨ 97 ≤ c.toNat ∧ c.toNat ≤ 122) ∨
      48 ≤ c.toNat ∧ c.toNat ≤ 57 := by
  show (c.isAlpha || c.isDigit) = true ↔ _
  rw [Bool.or_eq_true, isAlpha_iff, Char.isDigit_iff_toNat]
  rfl

theorem isNameStart_eq (c : Char) : isNameStart c = (c.isAlpha || c = '_') := by
  rw [Bool.eq_iff_iff, Bool.or_eq_true, isAlpha_iff, decide_eq_true_eq, eq_underscore_iff]
  simp only [isNameStart, Lexicon.nameStarts, Unicode.Ranges.contains_cons,
    Unicode.Ranges.contains_nil]
  simp
  omega

theorem isNameChar_eq (c : Char) : isNameChar c = (c.isAlphanum || c = '_') := by
  rw [Bool.eq_iff_iff, Bool.or_eq_true, isAlphanum_iff, decide_eq_true_eq, eq_underscore_iff]
  simp only [isNameChar, Lexicon.nameChars, Unicode.Ranges.contains_cons,
    Unicode.Ranges.contains_nil]
  simp
  omega

theorem isIdentifier_of_isName {name : String} (h : IsName name.toList) : isIdentifier name = true := by
  obtain ⟨c, cs, htext, hc, hcs⟩ := h
  rw [isIdentifier, htext]
  rw [isNameStart_eq] at hc
  rw [Bool.and_eq_true, List.all_eq_true]
  refine ⟨hc, fun d hd => ?_⟩
  rw [← isNameChar_eq]
  exact hcs d hd

namespace RegexSet

/-- The letters that are flags. -/
def flagLetters : List Char := ['i', 'm', 's', 'x', 'U']

theorem mem_flagLetters_of_readFlags {flags : Regex.Flags} {spacedOut : Bool} {index : Nat}
    {letters : List Char} {reading : Regex.Flags × Bool}
    (h : readFlags flags spacedOut index letters = .ok reading) :
    ∀ letter ∈ letters, letter ∈ flagLetters := by
  fun_induction readFlags flags spacedOut index letters with
  | case1 => simp
  | case7 => contradiction
  | case2 flags spacedOut index letters ih | case3 flags spacedOut index letters ih
  | case4 flags spacedOut index letters ih | case5 flags spacedOut index letters ih
  | case6 flags spacedOut index letters ih =>
    rw [List.forall_mem_cons]
    exact ⟨by decide, ih h⟩

/-- The flags of a set of texts are letters that are flags. -/
theorem mem_flagLetters_of_compile {source flags : String} {set : RegexSet}
    (h : compile source flags = .ok set) : ∀ letter ∈ flags.toList, letter ∈ flagLetters := by
  cases hread : readFlags {} false 0 flags.toList with
  | error error => simp [compile, hread, bind, Except.bind] at h
  | ok reading => exact mem_flagLetters_of_readFlags hread

end RegexSet

/-! ## Elements and components -/

/-- What is negated in the end, or the element itself. -/
def Element.unnegated : Element → Element
  | .negation inner => inner.unnegated
  | other => other

/-- Code in front of a component stands behind code of the component before it. -/
def CodeAdjoins (left right : Component) : Prop :=
  right.predicate ≠ none ∨ right.codeBefore ≠ none → left.codeAfter ≠ none

namespace Parser

variable {parser after : Parser}

/-- There is a branch in every choice. -/
theorem branches_ne_nil {found : List Branch} (hgives : (parser.branches).Gives found after) :
    found ≠ [] := by
  obtain ⟨first, _, -, ⟨_, _, -, others, -, rfl⟩ | ⟨-, rfl, -⟩⟩ := branches_gives.1 hgives
  · exact List.cons_ne_nil _ _
  · exact List.cons_ne_nil _ _

/-- There is a branch in every group. -/
theorem group_ne_nil {parser : Parser} {found : Element} (hgives : (parser.element).Gives found after)
    {kind : GroupKind} {branches : List Branch} (hgroup : found.unnegated = .group kind branches) :
    branches ≠ [] := by
  obtain ⟨sign, middle, hsign, inner, hinner, rfl⟩ | ⟨-, ⟨opening, inside, -, inner, behind,
    hinner, closing, -, rfl⟩ | ⟨-, id, -, rfl⟩⟩ := element_gives.1 hgives
  · exact group_ne_nil hinner hgroup
  · cases hgroup
    exact branches_ne_nil hinner
  · contradiction
termination_by parser.remaining
decreasing_by
  have hless := hsign.remaining_le
  omega

/-- Code behind a component is taken for that before the next component is read. -/
theorem codeAdjoins_of_gives {middle : Parser} {left right : Component}
    (hleft : (parser.component).Gives left middle) (hright : (middle.component).Gives right after) :
    CodeAdjoins left right := by
  intro hcode hnone
  obtain ⟨hpredicate, hbefore⟩ := component_bare hright (component_not_sees_brace hleft hnone)
  rcases hcode with hcode | hcode
  · exact hcode hpredicate
  · exact hcode hbefore

theorem components_adjoin {found : List Component} (hgives : (parser.components).Gives found after) :
    found.IsChain CodeAdjoins := by
  induction found generalizing parser with
  | nil => exact .nil
  | cons first others ih =>
    obtain ⟨-, heq, -⟩ | ⟨-, _, middle, hfirst, _, hmore, heq⟩ := components_gives.1 hgives
    · contradiction
    cases heq
    refine List.isChain_cons.2 ⟨fun second hsecond => ?_, ih hmore⟩
    obtain ⟨-, heq, -⟩ | ⟨-, _, last, hnext, _, -, heq⟩ := components_gives.1 hmore
    · rw [← heq] at hsecond
      contradiction
    · rw [← heq] at hsecond
      cases hsecond
      exact codeAdjoins_of_gives hfirst hnext

end Parser

/-! ## Parsed grammars -/

/-- Every node of a parsed grammar is read somewhere in a text, outside of code and regular
expressions. -/
theorem Has.exists_stands {source : Source} {grammar : Grammar}
    (h : (parse source).result = .ok grammar) {node : Node} (hnode : grammar.Has node) :
    ∃ start stop text, start.Stands [] text ∧ node.IsRead start stop := by
  obtain ⟨table, scanner, after, htable, hcreate, hgives⟩ := parse_eq_ok_iff.1 h
  obtain ⟨hstands, -⟩ := Parser.stands_create .empty htable hcreate
  obtain ⟨start, stop, hstart, hread, -⟩ := hnode.isRead Parser.stepwise_follows hgives
  obtain ⟨⟨text, htext⟩, -⟩ := hstart _ hstands
  exact ⟨start, stop, text, htext, hread⟩

/-- The shape of a grammar that is parsed. -/
structure Shaped (grammar : Grammar) : Prop where
  /-- Names are identifiers: that of the grammar, -/
  name : isIdentifier grammar.name = true
  /-- those of productions, -/
  production_name : ∀ production ∈ grammar.productions, isIdentifier production.name = true
  /-- labels, -/
  label : ∀ component, grammar.Has (.component component) → ∀ label ∈ component.label,
    isIdentifier label = true
  /-- and terminals that are names. -/
  ident : ∀ name, .ident name ∈ grammar.arena.terminals → isIdentifier name = true
  /-- A production has a branch, -/
  production_branch : ∀ production ∈ grammar.productions, production.branches ≠ []
  /-- and so has a group, negated or not. -/
  group_branch : ∀ component, grammar.Has (.component component) → ∀ kind branches,
    component.element.unnegated = .group kind branches → branches ≠ []
  /-- The bounds of suffixes are in order, and suffixes are the usual ones for their bounds; -/
  canonical : ∀ component, grammar.Has (.component component) → ∀ suffix ∈ component.suffixes,
    suffix.Canonical
  /-- so they are equal if their bounds are. -/
  suffix_eq_iff : ∀ component other, grammar.Has (.component component) →
    grammar.Has (.component other) → ∀ left ∈ component.suffixes, ∀ right ∈ other.suffixes,
      left = right ↔ left.bounds = right.bounds
  /-- Between its slashes a set of texts has something that opens no comment, -/
  set_source : ∀ set, .set set ∈ grammar.arena.terminals →
    ∃ c cs, set.source.toList = c :: cs ∧ c ≠ '/' ∧ c ≠ '*'
  /-- and its flags are flags. -/
  set_flags : ∀ set, .set set ∈ grammar.arena.terminals →
    ∀ letter ∈ set.flags.toList, letter ∈ RegexSet.flagLetters
  /-- Code in front of a component that is not the first of its branch stands behind code of the one
  before it. -/
  adjoins : ∀ branch, grammar.Has (.branch branch) → branch.components.IsChain CodeAdjoins

/-- **A parsed grammar is shaped.** -/
theorem shaped_of_parse {source : Source} {grammar : Grammar}
    (h : (parse source).result = .ok grammar) : grammar.Shaped := by
  have htidy := tidy_of_parse h
  have hproduction (production : Production) (hmem : production ∈ grammar.productions) :
      grammar.Has (.production production) := .child .self (List.mem_map_of_mem hmem)
  have hcanonical (component : Component) (hcomponent : grammar.Has (.component component)) :
      ∀ suffix ∈ component.suffixes, suffix.Canonical := by
    obtain ⟨start, stop, text, -, hread⟩ := hcomponent.exists_stands h
    obtain ⟨_, -, _, -, _, -, _, hsuffixes, -⟩ := Parser.component_gives.1 hread
    exact (Parser.suffixes_canonical hsuffixes).1
  constructor
  case name =>
    obtain ⟨start, stop, text, hstands, hread⟩ := Has.self.exists_stands h
    obtain ⟨keyword, atName, hkeyword, name, _, hname, _, _, -, _, -, -, _, -, -, hnamed, -⟩ :=
      Parser.wholeGrammar_gives.1 hread
    obtain ⟨⟨text', hatName⟩, -⟩ := hkeyword.follows text hstands
    rw [hnamed]
    exact isIdentifier_of_isName (hatName.isName_of_takes hname)
  case production_name =>
    intro production hmem
    obtain ⟨start, stop, text, hstands, hread⟩ := (hproduction production hmem).exists_stands h
    obtain ⟨name, _, hname, _, _, -, _, -, _, _, -, hnamed, -⟩ := Parser.production_gives.1 hread
    rw [hnamed]
    exact isIdentifier_of_isName (hstands.isName_of_takes hname)
  case label =>
    intro component hcomponent label hlabel
    obtain ⟨start, stop, text, hstands, hread⟩ := hcomponent.exists_stands h
    obtain ⟨atLabel, hinFront, _, hlabelled, -⟩ := Parser.component_gives.1 hread
    obtain ⟨⟨text', hatLabel⟩, -⟩ := Parser.stepwise_follows.codeInFront hinFront text hstands
    exact isIdentifier_of_isName (Parser.labelName_isName hatLabel hlabelled label hlabel)
  case ident => exact fun name hmem => isIdentifier_of_isName (htidy.names name hmem)
  case production_branch =>
    intro production hmem
    obtain ⟨start, stop, text, -, hread⟩ := (hproduction production hmem).exists_stands h
    obtain ⟨_, _, -, _, _, -, _, hbranches, -⟩ := Parser.production_gives.1 hread
    exact Parser.branches_ne_nil hbranches
  case group_branch =>
    intro component hcomponent kind branches hgroup
    obtain ⟨start, stop, text, -, hread⟩ := hcomponent.exists_stands h
    obtain ⟨_, -, _, -, _, helement, -⟩ := Parser.component_gives.1 hread
    exact Parser.group_ne_nil helement hgroup
  case canonical => exact hcanonical
  case suffix_eq_iff =>
    intro component other hcomponent hother left hleft right hright
    constructor
    · intro heq
      rw [heq]
    · intro hbounds
      rw [← (hcanonical component hcomponent left hleft).usual,
        ← (hcanonical other hother right hright).usual, hbounds]
  case set_source => exact fun set hmem => (htidy.literals set hmem).opens
  case set_flags =>
    intro set hmem
    obtain ⟨compiled, hcompiled⟩ := (htidy.literals set hmem).compiled
    exact RegexSet.mem_flagLetters_of_compile hcompiled
  case adjoins =>
    intro branch hbranch
    obtain ⟨start, stop, text, -, ⟨inside, -, hgives⟩⟩ := hbranch.exists_stands h
    exact Parser.components_adjoin (Parser.branch_gives.1 hgives).1

/-- A text with a label, a negated group, suffixes, flags and code on both sides is shaped. -/
theorem shaped_of_parse_small : ∃ grammar,
    (parse (.ofString "grammar G { a : x {p} {q}? n = ~( /b/is* | ){2,} ; }")).result = .ok grammar ∧
      grammar.arena.size = 2 ∧ grammar.Shaped := by
  have hsize :
      (parse (.ofString "grammar G { a : x {p} {q}? n = ~( /b/is* | ){2,} ; }")).result.toOption.map
        (fun grammar => grammar.arena.size) = some 2 := by
    rw [result_parse_words]
    decide +kernel
  obtain ⟨grammar, hsome, htwo⟩ := Option.map_eq_some_iff.1 hsize
  have hparsed := Scan.ok_of_toOption hsome
  exact ⟨grammar, hparsed, htwo, shaped_of_parse hparsed⟩

end GrammarLang.Grammar

import GrammarLang.Proofs.Grammar.Layout
import GrammarLang.Proofs.Grammar.Safe
import GrammarLang.Proofs.Grammar.Sound

/-! # Where terminals occur

The notation alone says which token sets of a text are terminals, without a tree:
**`Phrase.Reads`** reads token sets as a phrase of the notation and lists those that make up its
terminals, from left to right. The places of these in the arena are what a visitor meets on its walk
through the tree, and what the inventory of the grammar lists once each:
**`terminals_in_order`**. -/

namespace GrammarLang.Grammar

open GrammarLang.Scan GrammarLang.Text

/-! ## Terminals of a phrase -/

/-- A phrase of the notation. -/
inductive Phrase
  /-- A terminal, a group or a negation. -/
  | element
  /-- An element with what stands around it. -/
  | component
  /-- Components in a row. -/
  | branch
  /-- Branches with bars between them. -/
  | branches
  /-- A name for branches. -/
  | production
  /-- Productions in a row. -/
  | productions
  /-- A name for productions. -/
  | grammar
  deriving DecidableEq, Repr

/-- Token sets can be read as a phrase, and these of them are its terminals, in the order of the
text. A name, number or string that is no terminal is a name of a production, a label, and so on. -/
inductive Phrase.Reads : Phrase → List TokenSet → List (List TokenSet) → Prop
  /-- `terminal` -/
  | terminal {terminal : Terminal} {sets : List TokenSet} (spelt : TerminalSpells terminal sets) :
      Reads .element sets [sets]
  /-- `'~' element` -/
  | negation {sign : TokenSet} {sets : List TokenSet} {words : List (List TokenSet)}
      (negates : Is sign "~") (inner : Reads .element sets words) :
      Reads .element (sign :: sets) words
  /-- `('(' | '(?=' | '(?!') branches ')'` -/
  | group {opening closing : TokenSet} {sets : List TokenSet} {words : List (List TokenSet)}
      (opens : IsOneOf opening ["(", "(?=", "(?!"]) (inside : Reads .branches sets words)
      (closes : Is closing ")") : Reads .element (opening :: sets ++ [closing]) words
  /-- `(code '?')? code? (ident '=')? element suffix* code?` -/
  | component {predicate codeBefore codeAfter : Option CodeSegment} {name : Option String}
      {repeats : List Suffix} {front label sets suffixes behind : List TokenSet}
      {words : List (List TokenSet)} (inFront : FrontSpells predicate codeBefore front)
      (labelled : Maybe LabelSpells name label) (element : Reads .element sets words)
      (repeated : Each SuffixSpells repeats suffixes) (code : Maybe CodeSpells codeAfter behind) :
      Reads .component (front ++ label ++ sets ++ suffixes ++ behind) words
  /-- No component. -/
  | noComponent : Reads .branch [] []
  /-- `component branch` -/
  | components {sets further : List TokenSet} {words more : List (List TokenSet)}
      (first : Reads .component sets words) (others : Reads .branch further more) :
      Reads .branch (sets ++ further) (words ++ more)
  /-- `branch` -/
  | lastBranch {sets : List TokenSet} {words : List (List TokenSet)}
      (only : Reads .branch sets words) : Reads .branches sets words
  /-- `branch '|' branches` -/
  | bar {bar : TokenSet} {sets further : List TokenSet} {words more : List (List TokenSet)}
      (first : Reads .branch sets words) (separates : Is bar "|")
      (others : Reads .branches further more) :
      Reads .branches (sets ++ bar :: further) (words ++ more)
  /-- `ident ':' branches ';'` -/
  | production {name colon semicolon : TokenSet} {sets : List TokenSet}
      {words : List (List TokenSet)} (named : Is name Lexicon.ident) (opens : Is colon ":")
      (inside : Reads .branches sets words) (closes : Is semicolon ";") :
      Reads .production (name :: colon :: sets ++ [semicolon]) words
  /-- No production. -/
  | noProduction : Reads .productions [] []
  /-- `production productions` -/
  | productions {sets further : List TokenSet} {words more : List (List TokenSet)}
      (first : Reads .production sets words) (others : Reads .productions further more) :
      Reads .productions (sets ++ further) (words ++ more)
  /-- `'grammar' ident '{' productions '}'` -/
  | grammar {keyword name opening closing : TokenSet} {sets : List TokenSet}
      {words : List (List TokenSet)} (starts : Is keyword Lexicon.keyword)
      (named : Is name Lexicon.ident) (opens : Is opening "\x7b")
      (inside : Reads .productions sets words) (closes : Is closing "\x7d") :
      Reads .grammar (keyword :: name :: opening :: sets ++ [closing]) words

/-- The arena has a terminal at the place, and the token sets spell it. -/
def Arena.Spells (arena : Arena) (id : TerminalId) (sets : List TokenSet) : Prop :=
  ∃ terminal, arena.get? id = some terminal ∧ TerminalSpells terminal sets

/-- Each group of token sets ends before the next one starts. -/
def InTextOrder (words : List (List TokenSet)) : Prop :=
  words.Pairwise fun left right => ∀ set ∈ left, ∀ other ∈ right,
    set.first.span.stop ≤ other.first.span.start

namespace Phrase.Reads

variable {phrase : Phrase} {sets : List TokenSet} {words : List (List TokenSet)}

/-- The terminals of a phrase are among its token sets, in their order. -/
theorem flatten_sublist (h : phrase.Reads sets words) : words.flatten.Sublist sets := by
  induction h with
  | terminal spelt => rw [List.flatten_singleton]
  | negation negates inner ih => exact ih.cons _
  | group opens inside closes ih => exact (ih.trans (List.sublist_append_left _ _)).cons _
  | @component _ _ _ _ _ front label sets suffixes behind _ _ _ _ _ _ ih =>
    have hfront : sets.Sublist (front ++ label ++ sets) := List.sublist_append_right _ _
    have hbehind : (front ++ label ++ sets).Sublist (front ++ label ++ sets ++ suffixes ++ behind) :=
      (List.sublist_append_left _ _).trans (List.sublist_append_left _ _)
    exact ih.trans (hfront.trans hbehind)
  | noComponent | noProduction => exact List.Sublist.refl _
  | components first others ihFirst ihOthers | productions first others ihFirst ihOthers =>
    rw [List.flatten_append]
    exact ihFirst.append ihOthers
  | lastBranch only ih => exact ih
  | bar first separates others ihFirst ihOthers =>
    rw [List.flatten_append]
    exact ihFirst.append (ihOthers.cons _)
  | production named opens inside closes ih =>
    exact ((ih.trans (List.sublist_append_left _ _)).cons _).cons _
  | grammar starts named opens inside closes ih =>
    exact (((ih.trans (List.sublist_append_left _ _)).cons _).cons _).cons _

/-- Of token sets in order, those that are terminals are in order. -/
theorem inTextOrder (h : phrase.Reads sets words)
    (hordered : sets.Pairwise fun set other => set.first.span.stop ≤ other.first.span.start) :
    InTextOrder words :=
  (List.pairwise_flatten.1 (hordered.sublist h.flatten_sublist)).2

end Phrase.Reads

/-! ## Terminals of a tree -/

theorem GroupKind.isOneOf_of_opening {kind : GroupKind} {set : TokenSet} (h : Is set kind.opening) :
    IsOneOf set ["(", "(?=", "(?!"] := by
  refine ⟨kind.opening, ?_, h⟩
  cases kind <;> decide

variable {arena : Arena}

mutual

/-- Token sets that spell an element are read as one, and their terminals are its terminals. -/
theorem Element.reads_of_spells : (element : Element) → ∀ {sets : List TokenSet},
    ElementSpells arena element sets → ∃ words, Phrase.element.Reads sets words ∧
      List.Forall₂ arena.Spells element.leaves words
  | .terminal id, sets, h => by
    obtain ⟨stored, spelt⟩ | _ | _ := h
    exact ⟨[sets], .terminal spelt, .cons ⟨_, stored, spelt⟩ .nil⟩
  | .group kind branches, _, h => by
    cases h with
    | group opens spelt closes =>
      obtain ⟨words, hreads, hwords⟩ := reads_of_branchesSpell branches spelt
      exact ⟨words, .group (GroupKind.isOneOf_of_opening opens) hreads closes, hwords⟩
  | .negation inner, _, h => by
    cases h with
    | negation negates spelt =>
      obtain ⟨words, hreads, hwords⟩ := Element.reads_of_spells inner spelt
      exact ⟨words, .negation negates hreads, hwords⟩

theorem Component.reads_of_spells : (component : Component) → ∀ {sets : List TokenSet},
    ComponentSpells arena component sets → ∃ words, Phrase.component.Reads sets words ∧
      List.Forall₂ arena.Spells component.leaves words
  | ⟨_, _, _, _, element, _, _⟩, _, .parts inFront labelled spelt repeated code => by
    obtain ⟨words, hreads, hwords⟩ := Element.reads_of_spells element spelt
    exact ⟨words, .component inFront labelled hreads repeated code, hwords⟩

theorem reads_of_componentsSpell : (components : List Component) → ∀ {sets : List TokenSet},
    ComponentsSpell arena components sets → ∃ words, Phrase.branch.Reads sets words ∧
      List.Forall₂ arena.Spells (leavesOfComponents components) words
  | [], _, .nil => ⟨[], .noComponent, .nil⟩
  | first :: others, _, .cons spelt behind => by
    obtain ⟨words, hreads, hwords⟩ := Component.reads_of_spells first spelt
    obtain ⟨more, hothers, hmore⟩ := reads_of_componentsSpell others behind
    exact ⟨words ++ more, .components hreads hothers, List.rel_append hwords hmore⟩

theorem reads_of_branchesSpell : (branches : List Branch) → ∀ {sets : List TokenSet},
    BranchesSpell arena branches sets → ∃ words, Phrase.branches.Reads sets words ∧
      List.Forall₂ arena.Spells (leavesOfBranches branches) words
  | [⟨_, components⟩], _, .last spelt => by
    obtain ⟨words, hreads, hwords⟩ := reads_of_componentsSpell components spelt
    refine ⟨words, .lastBranch hreads, ?_⟩
    rwa [leavesOfBranches, leavesOfBranches, List.append_nil]
  | ⟨_, components⟩ :: others, _, .bar spelt separates behind => by
    obtain ⟨words, hreads, hwords⟩ := reads_of_componentsSpell components spelt
    obtain ⟨more, hothers, hmore⟩ := reads_of_branchesSpell others behind
    exact ⟨words ++ more, .bar hreads separates hothers, List.rel_append hwords hmore⟩

end

/-- Token sets that spell productions are read as productions, and their terminals are those of the
productions. -/
theorem reads_of_productionsSpell {productions : List Production} {sets : List TokenSet}
    (h : Each (ProductionSpells arena) productions sets) :
    ∃ words, Phrase.productions.Reads sets words ∧
      List.Forall₂ arena.Spells (leavesOfProductions productions) words := by
  induction h with
  | nil => exact ⟨[], .noProduction, .nil⟩
  | @cons production productions sets further spelt others ih =>
    obtain ⟨more, hothers, hmore⟩ := ih
    cases spelt with
    | named offers named opens spelt closes =>
      obtain ⟨words, hreads, hwords⟩ := reads_of_branchesSpell production.branches spelt
      exact ⟨words ++ more, .productions (.production ⟨_, offers⟩ opens hreads closes) hothers,
        List.rel_append hwords hmore⟩

/-- Token sets that spell a grammar are read as a grammar, and their terminals are those of its
tree. -/
theorem reads_of_grammarSpells {grammar : Grammar} {sets : List TokenSet}
    (h : GrammarSpells grammar sets) : ∃ words, Phrase.grammar.Reads sets words ∧
      List.Forall₂ grammar.arena.Spells (leavesOfProductions grammar.productions) words := by
  cases h with
  | named starts offers named opens spelt closes =>
    obtain ⟨words, hreads, hwords⟩ := reads_of_productionsSpell spelt
    exact ⟨words, .grammar starts ⟨_, offers⟩ opens hreads closes, hwords⟩

/-! ## Parsed grammars -/

variable {source : Source} {grammar : Grammar}

/-- The token sets that a grammar is read from spell it, in the order of the text. -/
theorem spells_and_ordered_of_parseWithTokens {sets : List TokenSet}
    (h : (parseWithTokens source).result = .ok (grammar, sets)) :
    GrammarSpells grammar sets ∧
      sets.Pairwise fun set other => set.first.span.stop ≤ other.first.span.start := by
  obtain ⟨parser, after, hstands, -, hproper, hgives, hsets⟩ := gives_of_parseWithTokens h
  obtain ⟨consumed, text, hconsumes, hspells, hend⟩ :=
    Parser.wholeGrammar_spells hstands hproper hgives
  obtain ⟨first, inner, last, -, text', hmarks, -⟩ :=
    Parser.wholeGrammar_laysOut hstands hproper hgives
  have hordered := (hmarks.scanned _ hstands.table).ordered.disjoint
  refine ⟨hsets _ _ _ hconsumes hend ▸ hspells, ?_⟩
  rw [← hsets _ _ _ hmarks.consumes hend]
  exact List.pairwise_map.2 hordered

/-- **The terminals of a parsed grammar are in order.** Every place that its tree refers to is in the
arena. A visitor meets the terminals as they occur in the text: these are the ones that the notation
finds in the token sets, one after another, and the arena has each of them at the place that the
visitor is given. The inventory lists every place of the arena once, in order, and the names of the
productions, which come in the order of the text as well. -/
theorem terminals_in_order (h : (parse source).result = .ok grammar) :
    (∀ id ∈ leavesOfProductions grammar.productions, id.index < grammar.arena.size) ∧
    (∃ sets words, (parseWithTokens source).result = .ok (grammar, sets) ∧
      GrammarSpells grammar sets ∧ Phrase.grammar.Reads sets words ∧ InTextOrder words ∧
      List.Forall₂ grammar.arena.Spells grammar.occurrences words) ∧
    (Check.Inventory.ofGrammar grammar).terminals.toList =
      (List.range grammar.arena.size).map TerminalId.mk ∧
    (Check.Inventory.ofGrammar grammar).productions.toList =
      grammar.productions.map Production.name := by
  have hnumbered := (inOrder_of_parse h).numbered
  have hsafe := safeIn_of_parse h
  refine ⟨hnumbered.lt, ?_, inventory_eq hnumbered hsafe.knows⟩
  obtain ⟨⟨_, sets⟩, hparsed, rfl⟩ : ∃ found, (parseWithTokens source).result = .ok found ∧
      found.1 = grammar := by
    rw [result_parse_eq] at h
    cases hparsed : (parseWithTokens source).result with
    | error error => rw [hparsed] at h; contradiction
    | ok found => exact ⟨found, rfl, Except.ok.inj (hparsed ▸ h)⟩
  obtain ⟨hspells, hordered⟩ := spells_and_ordered_of_parseWithTokens hparsed
  obtain ⟨words, hreads, hwords⟩ := reads_of_grammarSpells hspells
  exact ⟨sets, words, hparsed, hspells, hreads, hreads.inTextOrder hordered,
    hsafe.occurrences ▸ hwords⟩

/-- Four occurrences of three terminals: one within a group, with a label, one negated, one that is a
regular expression, and one that has been met before. -/
theorem terminals_in_order_nested : ∃ grammar,
    (parse (.ofString "grammar G { a : (n = x)* {c} | ~a /y/ x ; }")).result =
      .ok grammar ∧ grammar.occurrences.map TerminalId.index = [0, 1, 2, 0] ∧
    (∀ id ∈ leavesOfProductions grammar.productions, id.index < grammar.arena.size) ∧
    (∃ sets words, GrammarSpells grammar sets ∧ Phrase.grammar.Reads sets words ∧
      InTextOrder words ∧ List.Forall₂ grammar.arena.Spells grammar.occurrences words) ∧
    (Check.Inventory.ofGrammar grammar).terminals.toList =
      (List.range grammar.arena.size).map TerminalId.mk ∧
    (Check.Inventory.ofGrammar grammar).productions.toList =
      grammar.productions.map Production.name := by
  have hids : (parse (.ofString
      "grammar G { a : (n = x)* {c} | ~a /y/ x ; }")).result.toOption.map
      (fun grammar => grammar.occurrences.map TerminalId.index) =
        some [0, 1, 2, 0] := by
    rw [result_parse_words]
    decide +kernel
  obtain ⟨grammar, hsome, hindices⟩ := Option.map_eq_some_iff.1 hids
  have hparsed := Scan.ok_of_toOption hsome
  obtain ⟨hbelow, ⟨sets, words, -, hwords⟩, hlisted⟩ := terminals_in_order hparsed
  exact ⟨grammar, hparsed, hindices, hbelow, ⟨sets, words, hwords⟩, hlisted⟩

end GrammarLang.Grammar

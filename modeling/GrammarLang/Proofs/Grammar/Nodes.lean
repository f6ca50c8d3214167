import GrammarLang.Proofs.Grammar.Course

/-! # The nodes of a grammar tree

Grammars, productions, branches, components and pieces of code know their place in the text: they are
the **`Node`**s of a tree, and **`Node.children`** are those right inside a node, in the order of the
text. Elements have no place of their own; the branches of a group stand right inside the component of
the group, however often the group is negated.

Every node that a grammar **`Has`** was read by the function of the parser for nodes of its kind,
somewhere on the way from the start of the text to its end: **`Node.IsRead`** is handed down from a node
to its children (**`Node.IsRead.child`**), and so from the grammar to all of them
(**`Grammar.Has.isRead`**). -/

namespace GrammarLang.Grammar

open GrammarLang.Scan GrammarLang.Text

/-- The branches of a group, which may be negated. -/
def Element.branches : Element → List Branch
  | .terminal _ => []
  | .group _ branches => branches
  | .negation inner => inner.branches

/-- What has a place in the text. -/
inductive Node
  /-- A whole grammar. -/
  | grammar (grammar : Grammar)
  /-- A production. -/
  | production (production : Production)
  /-- A branch of a production or of a group. -/
  | branch (branch : Branch)
  /-- A component. -/
  | component (component : Component)
  /-- A piece of code. -/
  | code (segment : CodeSegment)

namespace Node

/-- Where a node stands. -/
def span : Node → Span
  | .grammar whole => whole.span
  | .production named => named.span
  | .branch choice => choice.span
  | .component part => part.span
  | .code segment => segment.span

/-- The pieces of code in front of the element of a component: predicate and code. -/
def codeInFront (component : Component) : List CodeSegment :=
  component.predicate.toList ++ component.codeBefore.toList

/-- The nodes right inside a node, in the order of the text. -/
def children : Node → List Node
  | .grammar whole => whole.productions.map .production
  | .production named => named.branches.map .branch
  | .branch choice => choice.components.map .component
  | .component part =>
    (codeInFront part).map .code ++ part.element.branches.map .branch ++
      part.codeAfter.toList.map .code
  | .code _ => []

end Node

/-- The nodes of a tree: the grammar itself, and everything inside it. -/
inductive Has (grammar : Grammar) : Node → Prop
  /-- The grammar. -/
  | self : Has grammar (.grammar grammar)
  /-- What stands right inside one of its nodes. -/
  | child {node child : Node} (outer : Has grammar node) (inside : child ∈ node.children) :
      Has grammar child

/-! ## How nodes are read -/

/-- The tokens that stand in front of a branch. -/
def branchFronts : List String := [":", "|", "(", "(?=", "(?!"]

/-- A token is taken behind which a branch starts. -/
def Parser.TakesFront (parser inside : Parser) : Prop :=
  ∃ rules token, (∀ rule ∈ rules, rule ∈ branchFronts) ∧ parser.Takes rules token inside

/-- Between two states of a parser a node is read, a branch with the token in front of it. -/
def Node.IsRead (parser after : Parser) : Node → Prop
  | .grammar whole => (Parser.wholeGrammar parser).Gives whole after
  | .production named => (Parser.production parser).Gives named after
  | .branch choice => ∃ inside, parser.TakesFront inside ∧ (Parser.branch inside).Gives choice after
  | .component part => (Parser.component parser).Gives part after
  | .code segment => (Parser.codeSegment parser).Gives segment after

namespace Parser

variable {holds : Parser → Parser → Prop} (h : Stepwise holds) {parser middle after : Parser}

/-- A node is read on the way from one state to another. -/
def ReadsOnTheWay (holds : Parser → Parser → Prop) (parser : Parser) (node : Node)
    (after : Parser) : Prop :=
  ∃ start stop, holds parser start ∧ node.IsRead start stop ∧ holds stop after

theorem Takes.takesFront {rules : List String} {token : Token} (htakes : parser.Takes rules token after)
    (hrules : ∀ rule ∈ rules, rule ∈ branchFronts) : parser.TakesFront after :=
  ⟨rules, token, hrules, htakes⟩

/-- The token set that is skipped is one of those in front of branches. -/
theorem TakesFront.exists_skips (h : parser.TakesFront after) :
    ∃ set, parser.Skips set after ∧ IsOneOf set branchFronts := by
  obtain ⟨rules, token, hrules, htakes⟩ := h
  obtain ⟨set, hskips, ⟨rule, hrule, his⟩, -⟩ := htakes.isOneOf
  exact ⟨set, hskips, rule, hrules rule hrule, his⟩

include h

namespace ReadsOnTheWay

theorem trans {node : Node} (hfront : holds parser middle)
    (hreads : ReadsOnTheWay holds middle node after) : ReadsOnTheWay holds parser node after := by
  obtain ⟨start, stop, hstart, hread, hstop⟩ := hreads
  exact ⟨start, stop, h.trans hfront hstart, hread, hstop⟩

theorem onward {node : Node} (hreads : ReadsOnTheWay holds parser node middle)
    (hbehind : holds middle after) : ReadsOnTheWay holds parser node after := by
  obtain ⟨start, stop, hstart, hread, hstop⟩ := hreads
  exact ⟨start, stop, hstart, hread, h.trans hstop hbehind⟩

/-- A single node that is read from a state on. -/
theorem here {node : Node} (hread : node.IsRead parser middle) (hbehind : holds middle after) :
    ReadsOnTheWay holds parser node after :=
  ⟨parser, middle, h.refl parser, hread, hbehind⟩

end ReadsOnTheWay

namespace Stepwise

theorem branch {branch : Branch} (hgives : (parser.branch).Gives branch after) : holds parser after :=
  h.components (branch_gives.1 hgives).1

theorem takesFront (hfront : parser.TakesFront after) : holds parser after := by
  obtain ⟨rules, token, -, htakes⟩ := hfront
  exact h.takes htakes

/-- Each production of a grammar is read. -/
theorem reads_production {found : List Production} (hgives : (parser.productions).Gives found after)
    {production : Production} (hmem : production ∈ found) :
    ReadsOnTheWay holds parser (.production production) after := by
  induction found generalizing parser with
  | nil => contradiction
  | cons first others ih =>
    obtain ⟨-, _, middle, hfirst, _, hmore, heq⟩ | ⟨-, heq, -⟩ := productions_gives.1 hgives
    · cases heq
      rcases List.mem_cons.1 hmem with rfl | hmem
      · exact .here h hfirst (h.productions hmore)
      · exact .trans h (h.production hfirst) (ih hmore hmem)
    · contradiction

/-- Each component of a branch is read. -/
theorem reads_component {found : List Component} (hgives : (parser.components).Gives found after)
    {component : Component} (hmem : component ∈ found) :
    ReadsOnTheWay holds parser (.component component) after := by
  induction found generalizing parser with
  | nil => contradiction
  | cons first others ih =>
    obtain ⟨-, heq, -⟩ | ⟨-, _, middle, hfirst, _, hmore, heq⟩ := components_gives.1 hgives
    · contradiction
    · cases heq
      rcases List.mem_cons.1 hmem with rfl | hmem
      · exact .here h hfirst (h.components hmore)
      · exact .trans h (h.component hfirst) (ih hmore hmem)

/-- Each branch of a choice is read, with the token in front of it: the one in front of the choice, or
a bar. -/
theorem reads_branch {inside : Parser} {found : List Branch} (hfront : parser.TakesFront inside)
    (hgives : (inside.branches).Gives found after) {branch : Branch} (hmem : branch ∈ found) :
    ReadsOnTheWay holds parser (.branch branch) after := by
  induction found generalizing parser inside with
  | nil => contradiction
  | cons first others ih =>
    obtain ⟨_, middle, hfirst, ⟨bar, behind, hbar, _, hmore, heq⟩ | ⟨-, heq, rfl⟩⟩ :=
      branches_gives.1 hgives
    · cases heq
      rcases List.mem_cons.1 hmem with rfl | hmem
      · exact .here h ⟨inside, hfront, hfirst⟩ (h.trans (h.takes hbar) (h.branches hmore))
      · have hbehind : middle.TakesFront behind := hbar.takesFront (by decide)
        exact .trans h (h.trans (h.takesFront hfront) (h.branch hfirst)) (ih hbehind hmore hmem)
    · cases heq
      obtain rfl := List.mem_singleton.1 hmem
      exact .here h ⟨inside, hfront, hfirst⟩ (h.refl _)

/-- Each branch of a group is read, however often the group is negated. -/
theorem reads_branch_of_element {parser : Parser} {found : Element}
    (hgives : (parser.element).Gives found after) {branch : Branch} (hmem : branch ∈ found.branches) :
    ReadsOnTheWay holds parser (.branch branch) after := by
  obtain ⟨sign, middle, hsign, inner, hinner, rfl⟩ | ⟨-, ⟨opening, inside, hopening, inner, behind,
    hinner, closing, hclosing, rfl⟩ | ⟨-, id, -, rfl⟩⟩ := element_gives.1 hgives
  · exact .trans h (h.takes hsign) (reads_branch_of_element hinner hmem)
  · have hfront : parser.TakesFront inside := hopening.takesFront (by decide)
    exact .onward h (h.reads_branch hfront hinner hmem) (h.takes hclosing)
  · contradiction
termination_by parser.remaining
decreasing_by
  have hless := hsign.remaining_le
  omega

/-- Predicate and code in front of an element are read. -/
theorem reads_codeInFront {predicate codeBefore : Option CodeSegment}
    (hgives : (parser.codeInFront).Gives (predicate, codeBefore) after) {code : CodeSegment}
    (hmem : code ∈ predicate.toList ++ codeBefore.toList) :
    ReadsOnTheWay holds parser (.code code) after := by
  obtain ⟨-, first, middle, hfirst, ⟨mark, behind, hmark, rfl, ⟨-, second, hsecond, rfl⟩ |
    ⟨-, rfl, rfl⟩⟩ | ⟨-, rfl, rfl, rfl⟩⟩ | ⟨-, rfl, rfl, rfl⟩ := codeInFront_gives.1 hgives
  · -- A predicate, and code behind its mark.
    rcases List.mem_append.1 hmem with hmem | hmem
    · obtain rfl := List.mem_singleton.1 hmem
      exact .here h hfirst (h.trans (h.takes hmark) (h.code hsecond))
    · obtain rfl := List.mem_singleton.1 hmem
      exact .trans h (h.trans (h.code hfirst) (h.takes hmark)) (.here h hsecond (h.refl _))
  · obtain rfl := List.mem_singleton.1 hmem
    exact .here h hfirst (h.takes hmark)
  · obtain rfl := List.mem_singleton.1 hmem
    exact .here h hfirst (h.refl _)
  · contradiction

/-- Code behind an element is read. -/
theorem reads_codeBehind {codeAfter : Option CodeSegment}
    (hgives : (parser.codeBehind).Gives codeAfter after) {code : CodeSegment}
    (hmem : code ∈ codeAfter.toList) : ReadsOnTheWay holds parser (.code code) after := by
  obtain ⟨-, segment, hsegment, rfl⟩ | ⟨-, rfl, -⟩ := codeBehind_gives.1 hgives
  · obtain rfl := List.mem_singleton.1 hmem
    exact .here h hsegment (h.refl _)
  · contradiction

/-- What stands right inside a component is read. -/
theorem reads_in_component {component : Component} (hgives : (parser.component).Gives component after)
    {child : Node} (hchild : child ∈ (Node.component component).children) :
    ReadsOnTheWay holds parser child after := by
  obtain ⟨atLabel, hinFront, atElement, hlabel, atSuffixes, helement, atCode, hsuffixes, hbehind,
    -⟩ := component_gives.1 hgives
  have hatElement := h.trans (h.codeInFront hinFront) (h.labelName hlabel)
  have hatCode := h.trans (h.trans hatElement (h.element helement)) (h.suffixes hsuffixes)
  -- The children are those read in front of the element, inside it and behind it.
  rw [Node.children, List.mem_append, List.mem_append] at hchild
  obtain (hfront | helementChild) | hafter := hchild
  · obtain ⟨code, hcode, rfl⟩ := List.mem_map.1 hfront
    refine .onward h (h.reads_codeInFront hinFront hcode) ?_
    refine h.trans (h.trans (h.labelName hlabel) (h.element helement)) ?_
    exact h.trans (h.suffixes hsuffixes) (h.codeBehind hbehind)
  · obtain ⟨branch, hbranch, rfl⟩ := List.mem_map.1 helementChild
    refine .trans h hatElement (.onward h (h.reads_branch_of_element helement hbranch) ?_)
    exact h.trans (h.suffixes hsuffixes) (h.codeBehind hbehind)
  · obtain ⟨code, hcode, rfl⟩ := List.mem_map.1 hafter
    exact .trans h hatCode (h.reads_codeBehind hbehind hcode)

end Stepwise

end Parser

/-- What is true of the states before and after single steps is true of those before and after a node. -/
theorem Node.IsRead.holds {holds : Parser → Parser → Prop} (h : Parser.Stepwise holds) {node : Node}
    {parser after : Parser} (hread : node.IsRead parser after) : holds parser after := by
  cases node with
  | grammar whole =>
    obtain ⟨keyword, atName, hkeyword, name, atOpening, hname, opening, inside, hopening, atClosing,
      hproductions, -, closing, hclosing, -⟩ := Parser.wholeGrammar_gives.1 hread
    have hinside := h.trans (h.trans (h.takes hkeyword) (h.takes hname)) (h.takes hopening)
    exact h.trans (h.trans hinside (h.productions hproductions)) (h.takes hclosing)
  | production named => exact h.production hread
  | branch choice =>
    obtain ⟨inside, hfront, hgives⟩ := hread
    exact h.trans (h.takesFront hfront) (h.branch hgives)
  | component part => exact h.component hread
  | code segment => exact h.code hread

/-- **What stands right inside a node is read while the node is read.** -/
theorem Node.IsRead.child {holds : Parser → Parser → Prop} (h : Parser.Stepwise holds) {node child : Node}
    {parser after : Parser} (hread : node.IsRead parser after) (hchild : child ∈ node.children) :
    Parser.ReadsOnTheWay holds parser child after := by
  cases node with
  | grammar whole =>
    obtain ⟨production, hproduction, rfl⟩ := List.mem_map.1 hchild
    obtain ⟨keyword, atName, hkeyword, name, atOpening, hname, opening, inside, hopening, atClosing,
      hproductions, -, closing, hclosing, -⟩ := Parser.wholeGrammar_gives.1 hread
    have hinside := h.trans (h.trans (h.takes hkeyword) (h.takes hname)) (h.takes hopening)
    exact .onward h (.trans h hinside (h.reads_production hproductions hproduction))
      (h.takes hclosing)
  | production named =>
    obtain ⟨branch, hbranch, rfl⟩ := List.mem_map.1 hchild
    obtain ⟨name, atColon, hname, colon, inside, hcolon, atEnd, hbranches, semicolon, last,
      hsemicolon, -, rfl, -⟩ := Parser.production_gives.1 hread
    refine .onward h (.trans h (h.takes hname) ?_) (h.trans (h.takes hsemicolon) (h.tell ..))
    exact h.reads_branch (hcolon.takesFront (by decide)) hbranches hbranch
  | branch choice =>
    obtain ⟨component, hcomponent, rfl⟩ := List.mem_map.1 hchild
    obtain ⟨inside, hfront, hgives⟩ := hread
    have hcomponents := (Parser.branch_gives.1 hgives).1
    exact .trans h (h.takesFront hfront) (h.reads_component hcomponents hcomponent)
  | component part => exact h.reads_in_component hread hchild
  | code segment => contradiction

/-- **Every node of a grammar is read on the way through its text.** -/
theorem Has.isRead {holds : Parser → Parser → Prop} (h : Parser.Stepwise holds) {grammar : Grammar}
    {parser after : Parser} (hgives : (Parser.wholeGrammar parser).Gives grammar after) {node : Node}
    (hnode : grammar.Has node) : Parser.ReadsOnTheWay holds parser node after := by
  induction hnode with
  | self => exact .here h hgives (h.refl after)
  | child _ inside ih =>
    obtain ⟨start, stop, hstart, hread, hstop⟩ := ih
    exact .trans h hstart (.onward h (hread.child h inside) hstop)

/-- The nodes inside a grammar are read between its braces. -/
theorem Has.isReadInside {holds : Parser → Parser → Prop} (h : Parser.Stepwise holds)
    {grammar : Grammar} {inside atClosing : Parser}
    (hgives : (inside.productions).Gives grammar.productions atClosing) {node : Node}
    (hnode : grammar.Has node) :
    node = .grammar grammar ∨ Parser.ReadsOnTheWay holds inside node atClosing := by
  induction hnode with
  | self => exact .inl rfl
  | child _ hchild ih =>
    rcases ih with rfl | ⟨start, stop, hstart, hread, hstop⟩
    · obtain ⟨production, hproduction, rfl⟩ := List.mem_map.1 hchild
      exact .inr (h.reads_production hgives hproduction)
    · exact .inr (.trans h hstart (.onward h (hread.child h hchild) hstop))

end GrammarLang.Grammar

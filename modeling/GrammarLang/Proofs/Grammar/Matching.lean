import GrammarLang.Grammar.Tree

/-! # Trees that match

Two trees match if they have the same names, texts and suffixes, while their terminals and places are
in given relations: **`BranchesMatch`**, **`Production.Matches`**. With equality for both relations
these are the trees that are equal (**`eq_of_branchesMatch`**). -/

namespace GrammarLang.Grammar

open GrammarLang.Text

variable {ids ids' : TerminalId → TerminalId → Prop} {spans spans' : Span → Span → Prop}

/-- Two pieces of code have the same text, or both are missing. -/
inductive CodesMatch (spans : Span → Span → Prop) : Option CodeSegment → Option CodeSegment → Prop
  /-- Both are missing. -/
  | none : CodesMatch spans none none
  /-- Both are there. -/
  | some {left right : CodeSegment} (span : spans left.span right.span)
      (text : left.text = right.text) : CodesMatch spans (some left) (some right)

mutual

/-- Two branches match. -/
inductive Branch.Matches (ids : TerminalId → TerminalId → Prop) (spans : Span → Span → Prop) :
    Branch → Branch → Prop
  /-- Their components match. -/
  | components {span span' : Span} {left right : List Component} (place : spans span span')
      (parts : ComponentsMatch ids spans left right) : Branch.Matches ids spans ⟨span, left⟩ ⟨span', right⟩

/-- Two lists of components match one by one. -/
inductive ComponentsMatch (ids : TerminalId → TerminalId → Prop) (spans : Span → Span → Prop) :
    List Component → List Component → Prop
  /-- There is no component. -/
  | nil : ComponentsMatch ids spans [] []
  /-- A component and those behind it. -/
  | cons {left right : Component} {lefts rights : List Component}
      (first : Component.Matches ids spans left right) (others : ComponentsMatch ids spans lefts rights) :
      ComponentsMatch ids spans (left :: lefts) (right :: rights)

/-- Two components match. -/
inductive Component.Matches (ids : TerminalId → TerminalId → Prop) (spans : Span → Span → Prop) :
    Component → Component → Prop
  /-- All their parts match. -/
  | parts {span span' : Span} {label : Option String} {suffixes : List Suffix}
      {predicate predicate' codeBefore codeBefore' codeAfter codeAfter' : Option CodeSegment}
      {element element' : Element} (place : spans span span')
      (predicates : CodesMatch spans predicate predicate')
      (before : CodesMatch spans codeBefore codeBefore')
      (elements : Element.Matches ids spans element element')
      (behind : CodesMatch spans codeAfter codeAfter') :
      Component.Matches ids spans ⟨span, label, predicate, codeBefore, element, suffixes, codeAfter⟩
        ⟨span', label, predicate', codeBefore', element', suffixes, codeAfter'⟩

/-- Two elements match. -/
inductive Element.Matches (ids : TerminalId → TerminalId → Prop) (spans : Span → Span → Prop) :
    Element → Element → Prop
  /-- Two terminals. -/
  | terminal {left right : TerminalId} (terminals : ids left right) :
      Element.Matches ids spans (.terminal left) (.terminal right)
  /-- Two groups of the same kind. -/
  | group {kind : GroupKind} {left right : List Branch} (choices : BranchesMatch ids spans left right) :
      Element.Matches ids spans (.group kind left) (.group kind right)
  /-- Two negations. -/
  | negation {left right : Element} (inner : Element.Matches ids spans left right) :
      Element.Matches ids spans (.negation left) (.negation right)

/-- Two lists of branches match one by one. -/
inductive BranchesMatch (ids : TerminalId → TerminalId → Prop) (spans : Span → Span → Prop) :
    List Branch → List Branch → Prop
  /-- There is no branch. -/
  | nil : BranchesMatch ids spans [] []
  /-- A branch and those behind it. -/
  | cons {left right : Branch} {lefts rights : List Branch} (first : Branch.Matches ids spans left right)
      (others : BranchesMatch ids spans lefts rights) :
      BranchesMatch ids spans (left :: lefts) (right :: rights)

end

/-- Two productions match. -/
structure Production.Matches (ids : TerminalId → TerminalId → Prop) (spans : Span → Span → Prop)
    (left right : Production) : Prop where
  /-- Their places. -/
  span : spans left.span right.span
  /-- They have the same name. -/
  name : left.name = right.name
  /-- Their branches. -/
  branches : BranchesMatch ids spans left.branches right.branches

/-! ## Weaker relations -/

theorem CodesMatch.mono (hspans : ∀ {left right}, spans left right → spans' left right)
    {left right : Option CodeSegment} (h : CodesMatch spans left right) :
    CodesMatch spans' left right := by
  cases h with
  | none => exact .none
  | some span text => exact .some (hspans span) text

mutual

theorem Branch.Matches.mono (hids : ∀ {left right}, ids left right → ids' left right)
    (hspans : ∀ {left right}, spans left right → spans' left right)
    {left right : Branch} :
    left.Matches ids spans right → left.Matches ids' spans' right
  | .components place parts => .components (hspans place) (ComponentsMatch.mono hids hspans parts)

theorem ComponentsMatch.mono (hids : ∀ {left right}, ids left right → ids' left right)
    (hspans : ∀ {left right}, spans left right → spans' left right)
    {left right : List Component} :
    ComponentsMatch ids spans left right → ComponentsMatch ids' spans' left right
  | .nil => .nil
  | .cons first others =>
    .cons (Component.Matches.mono hids hspans first) (ComponentsMatch.mono hids hspans others)

theorem Component.Matches.mono (hids : ∀ {left right}, ids left right → ids' left right)
    (hspans : ∀ {left right}, spans left right → spans' left right)
    {left right : Component} :
    left.Matches ids spans right → left.Matches ids' spans' right
  | .parts place predicates before elements behind =>
    .parts (hspans place) (predicates.mono hspans) (before.mono hspans)
      (Element.Matches.mono hids hspans elements) (behind.mono hspans)

theorem Element.Matches.mono (hids : ∀ {left right}, ids left right → ids' left right)
    (hspans : ∀ {left right}, spans left right → spans' left right)
    {left right : Element} :
    left.Matches ids spans right → left.Matches ids' spans' right
  | .terminal terminals => .terminal (hids terminals)
  | .group choices => .group (BranchesMatch.mono hids hspans choices)
  | .negation inner => .negation (Element.Matches.mono hids hspans inner)

theorem BranchesMatch.mono (hids : ∀ {left right}, ids left right → ids' left right)
    (hspans : ∀ {left right}, spans left right → spans' left right)
    {left right : List Branch} :
    BranchesMatch ids spans left right → BranchesMatch ids' spans' left right
  | .nil => .nil
  | .cons first others =>
    .cons (Branch.Matches.mono hids hspans first) (BranchesMatch.mono hids hspans others)

end

/-- Productions that match by weaker relations. -/
theorem Production.Matches.mono (hids : ∀ {left right}, ids left right → ids' left right)
    (hspans : ∀ {left right}, spans left right → spans' left right)
    {left right : Production} (h : left.Matches ids spans right) :
    left.Matches ids' spans' right :=
  ⟨hspans h.span, h.name, h.branches.mono hids hspans⟩

theorem BranchesMatch.length_eq {left right : List Branch} :
    BranchesMatch ids spans left right → left.length = right.length
  | .nil => rfl
  | .cons _ others => by rw [List.length_cons, List.length_cons, others.length_eq]

/-! ## Equal trees -/

theorem eq_of_codesMatch {left right : Option CodeSegment} (h : CodesMatch Eq left right) :
    left = right := by
  cases h with
  | none => rfl
  | @some left right span text =>
    obtain ⟨span', text'⟩ := left
    obtain ⟨_, _⟩ := right
    cases span
    cases text
    rfl

mutual

theorem Branch.eq_of_matches {left right : Branch} : left.Matches Eq Eq right → left = right
  | .components place parts => by rw [place, eq_of_componentsMatch parts]

theorem eq_of_componentsMatch {left right : List Component} :
    ComponentsMatch Eq Eq left right → left = right
  | .nil => rfl
  | .cons first others => by rw [Component.eq_of_matches first, eq_of_componentsMatch others]

theorem Component.eq_of_matches {left right : Component} : left.Matches Eq Eq right → left = right
  | .parts place predicates before elements behind => by
    rw [place, eq_of_codesMatch predicates, eq_of_codesMatch before, eq_of_codesMatch behind,
      Element.eq_of_matches elements]

theorem Element.eq_of_matches {left right : Element} : left.Matches Eq Eq right → left = right
  | .terminal terminals => by rw [terminals]
  | .group choices => by rw [eq_of_branchesMatch choices]
  | .negation inner => by rw [Element.eq_of_matches inner]

theorem eq_of_branchesMatch {left right : List Branch} : BranchesMatch Eq Eq left right → left = right
  | .nil => rfl
  | .cons first others => by rw [Branch.eq_of_matches first, eq_of_branchesMatch others]

end

/-- Productions that match by equality are equal. -/
theorem Production.eq_of_matches {left right : Production} (h : left.Matches Eq Eq right) :
    left = right := by
  obtain ⟨span, name, branches⟩ := left
  obtain ⟨span', name', branches'⟩ := right
  obtain ⟨hspan, hname, hbranches⟩ := h
  cases hspan
  cases hname
  cases eq_of_branchesMatch hbranches
  rfl

/-! ## Trees that are the same

Where the terminals are equal, places do not count. -/

theorem sameCode_of_codesMatch {left right : Option CodeSegment} (h : CodesMatch spans left right) :
    sameCode left right = true := by
  cases h with
  | none => rfl
  | some _ text => simp [sameCode, text]

mutual

theorem Branch.same_of_matches {left right : Branch} :
    left.Matches Eq spans right → left.same right = true
  | .components _ parts => by rw [Branch.same, sameComponents_of_match parts]

theorem sameComponents_of_match {left right : List Component} :
    ComponentsMatch Eq spans left right → sameComponents left right = true
  | .nil => by rw [sameComponents]
  | .cons first others => by
    rw [sameComponents, Component.same_of_matches first, sameComponents_of_match others]
    rfl

theorem Component.same_of_matches {left right : Component} :
    left.Matches Eq spans right → left.same right = true
  | .parts _ predicates before elements behind => by
    simp only [Component.same, sameCode_of_codesMatch predicates, sameCode_of_codesMatch before,
      sameCode_of_codesMatch behind, Element.same_of_matches elements, decide_true, Bool.and_self]

theorem Element.same_of_matches {left right : Element} :
    left.Matches Eq spans right → left.same right = true
  | .terminal terminals => by rw [Element.same, terminals, decide_eq_true rfl]
  | .group choices => by
    rw [Element.same, decide_eq_true rfl, sameBranches_of_match choices]
    rfl
  | .negation inner => by rw [Element.same, Element.same_of_matches inner]

theorem sameBranches_of_match {left right : List Branch} :
    BranchesMatch Eq spans left right → sameBranches left right = true
  | .nil => by rw [sameBranches]
  | .cons first others => by
    rw [sameBranches, Branch.same_of_matches first, sameBranches_of_match others]
    rfl

end

end GrammarLang.Grammar

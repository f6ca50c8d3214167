import GrammarLang.Proofs.Grammar.Shape
import GrammarLang.Proofs.Grammar.Writable

/-! # Where terminals stand

A **`Site`** is a terminal where it stands in a tree, with the components around it from the innermost
one to the outermost one. **`sites`** goes through a tree from left to right and finds all of them:
**`mem_sites_iff`** says what a site is without going through the tree, and **`map_id_sites`** that the
terminals come as often as they occur, and in their order. -/

namespace GrammarLang.Grammar

/-- A terminal where it stands. -/
structure Site where
  /-- The components around it, the innermost first. -/
  around : List Component
  /-- The place of the terminal in the arena. -/
  id : TerminalId

mutual

/-- The sites in a branch that stands in some components. -/
def Branch.sites (around : List Component) : Branch → List Site
  | ⟨_, components⟩ => sitesOfComponents around components
termination_by structural branch => branch

/-- The sites in components. -/
def sitesOfComponents (around : List Component) : List Component → List Site
  | [] => []
  | first :: others => first.sites around ++ sitesOfComponents around others
termination_by structural components => components

/-- The sites in a component, which stands around all of them. -/
def Component.sites (around : List Component) : Component → List Site
  | ⟨span, label, predicate, codeBefore, element, suffixes, codeAfter⟩ =>
    element.sites (⟨span, label, predicate, codeBefore, element, suffixes, codeAfter⟩ :: around)
termination_by structural component => component

/-- The sites in an element. -/
def Element.sites (around : List Component) : Element → List Site
  | .terminal id => [⟨around, id⟩]
  | .group _ branches => sitesOfBranches around branches
  | .negation inner => inner.sites around
termination_by structural element => element

/-- The sites in branches. -/
def sitesOfBranches (around : List Component) : List Branch → List Site
  | [] => []
  | first :: others => first.sites around ++ sitesOfBranches around others
termination_by structural branches => branches

end

/-- The sites in a grammar, from left to right. -/
def sites (grammar : Grammar) : List Site :=
  grammar.productions.flatMap fun production => sitesOfBranches [] production.branches

/-! ## Terminals as they occur -/

mutual

theorem Branch.map_id_sites (around : List Component) : (branch : Branch) →
    (branch.sites around).map Site.id = branch.leaves
  | ⟨_, components⟩ => by
    rw [Branch.sites, Branch.leaves]
    exact map_id_sitesOfComponents around components

theorem map_id_sitesOfComponents (around : List Component) : (components : List Component) →
    (sitesOfComponents around components).map Site.id = leavesOfComponents components
  | [] => rfl
  | first :: others => by
    rw [sitesOfComponents, leavesOfComponents, List.map_append, first.map_id_sites,
      map_id_sitesOfComponents around others]

theorem Component.map_id_sites (around : List Component) : (component : Component) →
    (component.sites around).map Site.id = component.leaves
  | ⟨_, _, _, _, element, _, _⟩ => by
    rw [Component.sites, Component.leaves]
    exact element.map_id_sites _

theorem Element.map_id_sites (around : List Component) : (element : Element) →
    (element.sites around).map Site.id = element.leaves
  | .terminal _ => rfl
  | .group _ branches => by
    rw [Element.sites, Element.leaves]
    exact map_id_sitesOfBranches around branches
  | .negation inner => by
    rw [Element.sites, Element.leaves]
    exact inner.map_id_sites around

theorem map_id_sitesOfBranches (around : List Component) : (branches : List Branch) →
    (sitesOfBranches around branches).map Site.id = leavesOfBranches branches
  | [] => rfl
  | first :: others => by
    rw [sitesOfBranches, leavesOfBranches, List.map_append, first.map_id_sites,
      map_id_sitesOfBranches around others]

end

/-- There is a site for each terminal, as often as it occurs, from left to right. -/
theorem map_id_sites (grammar : Grammar) :
    grammar.sites.map Site.id = leavesOfProductions grammar.productions := by
  rw [sites, leavesOfProductions, List.map_flatMap]
  simp only [map_id_sitesOfBranches]

/-! ## What is a site -/

/-- The branches right inside the innermost of some components, or right inside a production if there
is none. -/
def branchesInside (grammar : Grammar) : List Component → List Branch
  | [] => grammar.productions.flatMap Production.branches
  | innermost :: _ => innermost.element.branches

/-- Some components stand inside one another, each right inside the next one and the last one right
inside a production. -/
inductive Nested (grammar : Grammar) : List Component → Prop
  /-- No component. -/
  | none : Nested grammar []
  /-- One more component, inside the others. -/
  | inside {around : List Component} {branch : Branch} {component : Component}
      (outer : Nested grammar around) (hbranch : branch ∈ grammar.branchesInside around)
      (hcomponent : component ∈ branch.components) : Nested grammar (component :: around)

/-- The terminal stands in the grammar, right inside the first of the components, and the components
stand inside one another. -/
structure Site.StandsIn (grammar : Grammar) (site : Site) : Prop where
  /-- The components stand inside one another. -/
  nested : grammar.Nested site.around
  /-- The terminal is the element of the innermost one, maybe negated. -/
  innermost : ∃ component ∈ site.around.head?, component.element.unnegated = .terminal site.id

theorem sitesOfComponents_eq (around : List Component) (components : List Component) :
    sitesOfComponents around components = components.flatMap (Component.sites around) := by
  induction components with
  | nil => rfl
  | cons first others ih => rw [sitesOfComponents, List.flatMap_cons, ih]

theorem sitesOfBranches_eq (around : List Component) (branches : List Branch) :
    sitesOfBranches around branches = branches.flatMap (Branch.sites around) := by
  induction branches with
  | nil => rfl
  | cons first others ih => rw [sitesOfBranches, List.flatMap_cons, ih]

theorem Branch.mem_sites {around : List Component} {site : Site} {branch : Branch} :
    site ∈ branch.sites around ↔ ∃ component ∈ branch.components, site ∈ component.sites around := by
  obtain ⟨span, components⟩ := branch
  rw [Branch.sites, sitesOfComponents_eq, List.mem_flatMap]

/-- The sites in an element are the terminal, if it is one, and the sites in its branches. -/
theorem Element.mem_sites {around : List Component} {site : Site} : (element : Element) →
    (site ∈ element.sites around ↔ (site.around = around ∧ element.unnegated = .terminal site.id) ∨
      ∃ branch ∈ element.branches, site ∈ branch.sites around)
  | .terminal id => by
    obtain ⟨around', id'⟩ := site
    simp [Element.sites, unnegated, branches, eq_comm]
  | .group kind branches => by
    rw [Element.sites, sitesOfBranches_eq, List.mem_flatMap]
    simp [unnegated, Element.branches]
  | .negation inner => by
    rw [Element.sites, inner.mem_sites]
    rfl

theorem Component.mem_sites {around : List Component} {site : Site} {component : Component} :
    site ∈ component.sites around ↔
      (site.around = component :: around ∧ component.element.unnegated = .terminal site.id) ∨
        ∃ branch ∈ component.element.branches, site ∈ branch.sites (component :: around) := by
  rw [← Element.mem_sites]
  cases component
  rw [Component.sites]

theorem mem_sites {grammar : Grammar} {site : Site} :
    site ∈ grammar.sites ↔ ∃ branch ∈ grammar.branchesInside [], site ∈ branch.sites [] := by
  simp only [sites, branchesInside, List.mem_flatMap, sitesOfBranches_eq]
  constructor
  · rintro ⟨production, hproduction, branch, hbranch, hsite⟩
    exact ⟨branch, ⟨production, hproduction, hbranch⟩, hsite⟩
  · rintro ⟨branch, ⟨production, hproduction, hbranch⟩, hsite⟩
    exact ⟨production, hproduction, branch, hbranch, hsite⟩

variable {grammar : Grammar} {site : Site}

/-- What is a site in a branch right inside some components is a site in the grammar. -/
theorem Nested.mem_sites {around : List Component} (h : grammar.Nested around) {branch : Branch}
    (hbranch : branch ∈ grammar.branchesInside around) (hsite : site ∈ branch.sites around) :
    site ∈ grammar.sites := by
  induction h generalizing branch with
  | none => exact Grammar.mem_sites.2 ⟨branch, hbranch, hsite⟩
  | inside outer houter hcomponent ih =>
    have hinner := Component.mem_sites.2 (.inr ⟨branch, hbranch, hsite⟩)
    exact ih houter (Branch.mem_sites.2 ⟨_, hcomponent, hinner⟩)

mutual

theorem Nested.standsIn_of_branch {around : List Component} (h : grammar.Nested around) :
    (branch : Branch) → branch ∈ grammar.branchesInside around → site ∈ branch.sites around →
      site.StandsIn grammar
  | ⟨_, components⟩, hbranch, hsite => by
    have hcomponents (component : Component) (hmem : component ∈ components) :
        grammar.Nested (component :: around) := .inside h hbranch hmem
    rw [Branch.sites] at hsite
    exact standsIn_of_components components hcomponents hsite
termination_by structural branch => branch

theorem standsIn_of_components {around : List Component} : (components : List Component) →
    (∀ component ∈ components, grammar.Nested (component :: around)) →
      site ∈ sitesOfComponents around components → site.StandsIn grammar
  | [], _, hsite => nomatch hsite
  | first :: others, hnested, hsite => by
    rw [sitesOfComponents] at hsite
    obtain ⟨hfirst, hothers⟩ := List.forall_mem_cons.1 hnested
    obtain hsite | hsite := List.mem_append.1 hsite
    · exact Nested.standsIn_of_component first hfirst hsite
    · exact standsIn_of_components others hothers hsite
termination_by structural components => components

theorem Nested.standsIn_of_component {around : List Component} : (component : Component) →
    grammar.Nested (component :: around) → site ∈ component.sites around → site.StandsIn grammar
  | ⟨span, label, predicate, codeBefore, element, suffixes, codeAfter⟩, h, hsite => by
    rw [Component.sites] at hsite
    exact standsIn_of_element h element rfl (fun branch hbranch => hbranch) hsite
termination_by structural component => component

theorem standsIn_of_element {component : Component} {around : List Component}
    (h : grammar.Nested (component :: around)) : (element : Element) →
      component.element.unnegated = element.unnegated →
      (∀ branch ∈ element.branches, branch ∈ grammar.branchesInside (component :: around)) →
      site ∈ element.sites (component :: around) → site.StandsIn grammar
  | .terminal id, hunnegated, _, hsite => by
    obtain rfl := List.mem_singleton.1 hsite
    exact ⟨h, component, rfl, hunnegated⟩
  | .group _ branches, _, hbranches, hsite => by
    rw [Element.sites] at hsite
    exact standsIn_of_branches h branches hbranches hsite
  | .negation inner, hunnegated, hbranches, hsite => by
    rw [Element.sites] at hsite
    exact standsIn_of_element h inner hunnegated hbranches hsite
termination_by structural element => element

theorem standsIn_of_branches {around : List Component} (h : grammar.Nested around) :
    (branches : List Branch) → (∀ branch ∈ branches, branch ∈ grammar.branchesInside around) →
      site ∈ sitesOfBranches around branches → site.StandsIn grammar
  | [], _, hsite => nomatch hsite
  | first :: others, hinside, hsite => by
    rw [sitesOfBranches] at hsite
    obtain ⟨hfirst, hothers⟩ := List.forall_mem_cons.1 hinside
    obtain hsite | hsite := List.mem_append.1 hsite
    · exact h.standsIn_of_branch first hfirst hsite
    · exact standsIn_of_branches h others hothers hsite
termination_by structural branches => branches

end

/-- **The sites of a grammar** are the terminals with the components around them, and nothing else. -/
theorem mem_sites_iff : site ∈ grammar.sites ↔ site.StandsIn grammar := by
  constructor
  · intro hsite
    obtain ⟨branch, hbranch, hsite⟩ := mem_sites.1 hsite
    exact Nested.none.standsIn_of_branch branch hbranch hsite
  · rintro ⟨hnested, component, hhead, hterminal⟩
    obtain ⟨around, id⟩ := site
    cases hnested with
    | none => contradiction
    | @inside outer branch innermost hnested hbranch hcomponent =>
      obtain rfl : innermost = component := Option.some.inj hhead
      have hinner := Component.mem_sites.2 (.inl ⟨rfl, hterminal⟩)
      exact hnested.mem_sites hbranch (Branch.mem_sites.2 ⟨_, hcomponent, hinner⟩)

end GrammarLang.Grammar

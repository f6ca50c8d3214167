import GrammarLang.Check.Compiled
import GrammarLang.Proofs.Grammar.Safe
import GrammarLang.Proofs.Grammar.Sites
import GrammarLang.Proofs.Grammar.SpanTree

/-! # What is reported of a grammar

The errors about a grammar are those for its **`repeated`** productions, whose name an earlier one has;
the warnings are those for its sites with a name that no production has. All of this is one theorem
about parsed grammars, **`reported_of_parse`**.

The search for names keeps the place of the innermost component on its way. A walk through any part of
the tree leaves that place as it was and adds the warnings of the sites in that part: what is around a
component does not matter to the walk, as the component sets the place itself
(**`visitComponent_nameSearcher`**). -/

namespace GrammarLang.Check

open GrammarLang.Grammar GrammarLang.Text

/-! ## Names given before -/

/-- Whether a production at some place has the name of an earlier one. -/
def repeats (productions : List Production) (entry : Production × Nat) : Bool :=
  entry.1.name ∈ (productions.take entry.2).map Production.name

/-- The productions whose name an earlier one has. -/
def repeated (grammar : Grammar) : List Production :=
  (grammar.productions.zipIdx.filter (repeats grammar.productions)).map Prod.fst

/-- Behind some productions, whose names were given, there is an error for each production whose name
was given by these or by an earlier one. -/
theorem duplicatesAfter_eq {names : List String} {earlier : List Production}
    (h : ∀ name, name ∈ names ↔ name ∈ earlier.map Production.name) (later : List Production) :
    duplicatesAfter names later =
      (((later.zipIdx earlier.length).filter (repeats (earlier ++ later))).map Prod.fst).map
        duplicate := by
  induction later generalizing names earlier with
  | nil => rfl
  | cons first others ih =>
    have hlength : (earlier ++ [first]).length = earlier.length + 1 := List.length_append
    have hall : earlier ++ first :: others = (earlier ++ [first]) ++ others := by simp
    have hfirst : repeats (earlier ++ first :: others) (first, earlier.length) =
        decide (first.name ∈ names) := by
      rw [repeats, List.take_left, decide_eq_decide, h]
    rw [duplicatesAfter, List.zipIdx_cons, List.filter_cons, hfirst, hall, ← hlength]
    by_cases hname : first.name ∈ names
    · -- The name is known already, so the names stay those of the productions so far.
      have hnames (name : String) :
          name ∈ names ↔ name ∈ (earlier ++ [first]).map Production.name := by
        rw [List.map_append, List.mem_append, ← h name, List.map_singleton, List.mem_singleton]
        exact (or_iff_left_of_imp fun heq => heq ▸ hname).symm
      rw [if_pos hname, if_pos (decide_eq_true hname), ih hnames]
      rfl
    · have hnames (name : String) :
          name ∈ first.name :: names ↔ name ∈ (earlier ++ [first]).map Production.name := by
        rw [List.map_append, List.mem_append, ← h name, List.map_singleton, List.mem_singleton,
          List.mem_cons, or_comm]
      rw [if_neg hname, if_neg (by simpa using hname), ih hnames]

theorem duplicates_eq (grammar : Grammar) : duplicates grammar = (repeated grammar).map duplicate := by
  have hnone (name : String) :
      name ∈ ([] : List String) ↔ name ∈ ([] : List Production).map Production.name := Iff.rfl
  exact duplicatesAfter_eq hnone grammar.productions

/-- No name is given twice where no error is found. -/
theorem duplicatesAfter_eq_nil_iff {names : List String} {productions : List Production} :
    duplicatesAfter names productions = [] ↔
      (productions.map Production.name).Nodup ∧ ∀ production ∈ productions, production.name ∉ names := by
  induction productions generalizing names with
  | nil => simp [duplicatesAfter]
  | cons first others ih =>
    rw [duplicatesAfter, List.map_cons, List.nodup_cons, List.forall_mem_cons]
    by_cases hname : first.name ∈ names
    · simp [hname]
    · rw [if_neg hname, ih]
      simp only [List.mem_cons, List.mem_map, not_or, not_exists, not_and]
      constructor
      · rintro ⟨hnodup, hothers⟩
        exact ⟨⟨fun other hmem => (hothers other hmem).1, hnodup⟩, hname,
          fun other hmem => (hothers other hmem).2⟩
      · rintro ⟨⟨hfirst, hnodup⟩, -, hothers⟩
        exact ⟨hnodup, fun other hmem => ⟨hfirst other hmem, hothers other hmem⟩⟩

theorem duplicates_eq_nil_iff {grammar : Grammar} :
    duplicates grammar = [] ↔ (grammar.productions.map Production.name).Nodup := by
  rw [duplicates, duplicatesAfter_eq_nil_iff]
  simp

/-- The productions with repeated names come in the order of the text. -/
theorem repeated_sublist (grammar : Grammar) : (repeated grammar).Sublist grammar.productions := by
  have hfilter : (grammar.productions.zipIdx.filter (repeats grammar.productions)).Sublist
      grammar.productions.zipIdx := List.filter_sublist
  have hsublist := hfilter.map Prod.fst
  rwa [List.zipIdx_map_fst] at hsublist

/-! ## Names that no production has -/

/-- The warning about a terminal, if it is a name that no production has. -/
def unknownAt? (grammar : Grammar) (site : Site) : Option Diagnostic :=
  match site.around, grammar.arena.get? site.id with
  | innermost :: _, some (.ident name) =>
    if name ∈ grammar.productions.map Production.name then none
    else some ⟨.warning, innermost.span, s!"'{name}' does not name a production"⟩
  | _, _ => none

theorem eq_of_unknownAt?_eq_some {grammar : Grammar} {site : Site} {warning : Diagnostic}
    (h : unknownAt? grammar site = some warning) :
    ∃ innermost ∈ site.around.head?, ∃ name, warning = unknownName innermost.span name := by
  unfold unknownAt? at h
  split at h
  · rename_i innermost outer name haround hterminal
    split at h
    · contradiction
    · exact ⟨innermost, by rw [haround]; rfl, name, (Option.some.inj h).symm⟩
  · contradiction

/-- A production of a name is found if and only if there is one. -/
theorem isSome_production?_iff {grammar : Grammar} {name : String} :
    (grammar.production? name).isSome = true ↔ name ∈ grammar.productions.map Production.name := by
  rw [production?, List.find?_isSome, List.mem_map]
  simp only [decide_eq_true_eq]

/-- Some more warnings in a search. -/
def NameSearch.warn (search : NameSearch) (more : List Diagnostic) : NameSearch :=
  { search with warnings := search.warnings ++ more.toArray }

namespace NameSearch

@[simp] theorem warn_nil (search : NameSearch) : search.warn [] = search := by simp [warn]

theorem warn_append (search : NameSearch) (more further : List Diagnostic) :
    search.warn (more ++ further) = (search.warn more).warn further := by simp [warn]

end NameSearch

section

variable {grammar : Grammar}

/-- A terminal is looked up with the place of the component around it. -/
theorem visitTerminal_nameSearcher {component : Component} {around : List Component}
    {search : NameSearch} (h : search.span = component.span) (id : TerminalId) :
    (nameSearcher grammar).visitTerminal grammar.arena id search =
      search.warn ([⟨component :: around, id⟩].filterMap (unknownAt? grammar)) := by
  rw [Visitor.visitTerminal, List.filterMap_cons, List.filterMap_nil, unknownAt?]
  cases hterminal : grammar.arena.get? id with
  | none => simp
  | some terminal =>
    cases terminal with
    | ident name =>
      by_cases hname : name ∈ grammar.productions.map Production.name
      · have hfound := isSome_production?_iff.2 hname
        simp [nameSearcher, hfound, hname]
      · have hfound := mt isSome_production?_iff.1 hname
        simp [nameSearcher, hfound, hname, NameSearch.warn, unknownName, h]
    | _ => simp [nameSearcher]

theorem visitCode_nameSearcher (code : Option CodeSegment) (search : NameSearch) :
    (nameSearcher grammar).visitCode code search = search := by
  cases code <;> rfl

theorem visitSuffixes_nameSearcher (suffixes : List Suffix) (search : NameSearch) :
    (nameSearcher grammar).visitSuffixes suffixes search = search :=
  List.foldl_fixed suffixes

mutual

theorem visitBranch_nameSearcher (around : List Component) : (branch : Branch) → ∀ search,
    (nameSearcher grammar).visitBranch grammar.arena branch search =
      search.warn ((branch.sites around).filterMap (unknownAt? grammar))
  | ⟨_, components⟩, search => by
    rw [Visitor.visitBranch, Branch.sites]
    exact visitComponents_nameSearcher around components search
termination_by structural branch => branch

theorem visitComponents_nameSearcher (around : List Component) : (components : List Component) →
    ∀ search, (nameSearcher grammar).visitComponents grammar.arena components search =
      search.warn ((sitesOfComponents around components).filterMap (unknownAt? grammar))
  | [], search => by
    rw [Visitor.visitComponents, sitesOfComponents, List.filterMap_nil, search.warn_nil]
  | first :: others, search => by
    rw [Visitor.visitComponents, visitComponent_nameSearcher around first,
      visitComponents_nameSearcher around others, sitesOfComponents, List.filterMap_append,
      NameSearch.warn_append]
termination_by structural components => components

/-- **A walk through a component adds the warnings of its sites**, and leaves the place as it was. -/
theorem visitComponent_nameSearcher (around : List Component) : (component : Component) →
    ∀ search, (nameSearcher grammar).visitComponent grammar.arena component search =
      search.warn ((component.sites around).filterMap (unknownAt? grammar))
  | ⟨span, label, predicate, codeBefore, element, suffixes, codeAfter⟩, search => by
    let component : Component :=
      ⟨span, label, predicate, codeBefore, element, suffixes, codeAfter⟩
    let inside : NameSearch := ⟨span, search.warnings⟩
    have helement : (nameSearcher grammar).visitElement grammar.arena element inside =
        inside.warn ((element.sites (component :: around)).filterMap (unknownAt? grammar)) :=
      visitElement_nameSearcher rfl element
    rw [Visitor.visitComponent, Component.sites]
    simp only [visitCode_nameSearcher, visitSuffixes_nameSearcher]
    -- The place is set for the element, and set back behind it.
    change NameSearch.mk search.span
      ((nameSearcher grammar).visitElement grammar.arena element inside).warnings = _
    rw [helement]
    rfl
termination_by structural component => component

/-- A walk through an element adds the warnings of its sites, where the place is that of the component
of the element. -/
theorem visitElement_nameSearcher {component : Component} {around : List Component}
    {search : NameSearch} (h : search.span = component.span) : (element : Element) →
    (nameSearcher grammar).visitElement grammar.arena element search =
      search.warn ((element.sites (component :: around)).filterMap (unknownAt? grammar))
  | .terminal id => by
    rw [Visitor.visitElement, Element.sites]
    exact visitTerminal_nameSearcher h id
  | .group _ branches => by
    rw [Visitor.visitElement, Element.sites]
    exact visitBranches_nameSearcher (component :: around) branches search
  | .negation inner => by
    rw [Visitor.visitElement, Element.sites]
    exact visitElement_nameSearcher h inner
termination_by structural element => element

theorem visitBranches_nameSearcher (around : List Component) : (branches : List Branch) → ∀ search,
    (nameSearcher grammar).visitBranches grammar.arena branches search =
      search.warn ((sitesOfBranches around branches).filterMap (unknownAt? grammar))
  | [], search => by
    rw [Visitor.visitBranches, sitesOfBranches, List.filterMap_nil, search.warn_nil]
  | first :: others, search => by
    rw [Visitor.visitBranches, visitBranch_nameSearcher around first,
      visitBranches_nameSearcher around others, sitesOfBranches, List.filterMap_append,
      NameSearch.warn_append]
termination_by structural branches => branches

end

/-- A walk through the productions adds the warnings of all sites. -/
theorem visitProductions_nameSearcher (productions : List Production) (search : NameSearch) :
    productions.foldl (fun reached production =>
        (nameSearcher grammar).visitProduction grammar.arena production reached) search =
      search.warn ((productions.flatMap fun production =>
        sitesOfBranches [] production.branches).filterMap (unknownAt? grammar)) := by
  induction productions generalizing search with
  | nil => exact search.warn_nil.symm
  | cons first others ih =>
    have hfirst : (nameSearcher grammar).visitProduction grammar.arena first search =
        search.warn ((sitesOfBranches [] first.branches).filterMap (unknownAt? grammar)) :=
      visitBranches_nameSearcher [] first.branches search
    rw [List.foldl_cons, hfirst, ih, List.flatMap_cons, List.filterMap_append,
      NameSearch.warn_append]

theorem unknownNames_eq (grammar : Grammar) :
    unknownNames grammar = grammar.sites.filterMap (unknownAt? grammar) := by
  rw [unknownNames, Visitor.visit, visitProductions_nameSearcher]
  simp [NameSearch.warn, sites]

end

/-! ## The order of warnings -/

section

variable {grammar : Grammar} {low high : Nat}

/-- From one offset to another stand the places of the warnings about some sites in a row. -/
def WarningsRow (grammar : Grammar) (low : Nat) (sites : List Site) (high : Nat) : Prop :=
  Row low ((sites.filterMap (unknownAt? grammar)).map Diagnostic.span) high

/-- The warnings of one node and of those behind it. -/
theorem WarningsRow.cons {span : Span} {sites others : List Site} (hstart : low ≤ span.start)
    (h : WarningsRow grammar span.start sites span.stop)
    (hothers : WarningsRow grammar span.stop others high) :
    WarningsRow grammar low (sites ++ others) high := by
  rw [WarningsRow, List.filterMap_append, List.map_append]
  exact (Row.ofLe hstart h).append hothers

/-- The warning about a single site stands at the innermost component. -/
theorem warningsRow_single {component : Component} {around : List Component} (id : TerminalId)
    (h : component.span.start ≤ component.span.stop) :
    WarningsRow grammar component.span.start [⟨component :: around, id⟩] component.span.stop := by
  rw [WarningsRow, List.filterMap_cons, List.filterMap_nil]
  cases hwarning : unknownAt? grammar ⟨component :: around, id⟩ with
  | none => exact h
  | some warning =>
    obtain ⟨innermost, hhead, name, rfl⟩ := eq_of_unknownAt?_eq_some hwarning
    obtain rfl : component = innermost := Option.some.inj hhead
    exact .single (Nat.le_refl _) h (Nat.le_refl _)

mutual

theorem warningsRow_branch (hrows : grammar.InRows) (around : List Component) : (branch : Branch) →
    grammar.Has (.branch branch) →
      WarningsRow grammar branch.span.start (branch.sites around) branch.span.stop
  | ⟨span, components⟩, hnode => by
    have hcomponents (component : Component) (hmem : component ∈ components) :
        grammar.Has (.component component) := hnode.child (List.mem_map_of_mem hmem)
    have hinside : Row span.start (components.map Component.span) span.stop := by
      simpa [Node.children, Node.span, Function.comp_def] using hrows _ hnode
    rw [Branch.sites]
    exact warningsRow_components hrows around components hcomponents hinside
termination_by structural branch => branch

theorem warningsRow_components (hrows : grammar.InRows) (around : List Component) {low high : Nat} :
    (components : List Component) → (∀ component ∈ components, grammar.Has (.component component)) →
      Row low (components.map Component.span) high →
      WarningsRow grammar low (sitesOfComponents around components) high
  | [], _, hinside => hinside
  | first :: others, hnodes, hinside => by
    obtain ⟨hfirst, hothers⟩ := List.forall_mem_cons.1 hnodes
    obtain ⟨hstart, -, hrest⟩ := hinside
    rw [sitesOfComponents]
    exact .cons hstart (warningsRow_component hrows around first hfirst)
      (warningsRow_components hrows around others hothers hrest)
termination_by structural components => components

theorem warningsRow_component (hrows : grammar.InRows) (around : List Component) :
    (component : Component) → grammar.Has (.component component) →
      WarningsRow grammar component.span.start (component.sites around) component.span.stop
  | ⟨span, label, predicate, codeBefore, element, suffixes, codeAfter⟩, hnode => by
    let component : Component :=
      ⟨span, label, predicate, codeBefore, element, suffixes, codeAfter⟩
    have hinside := hrows _ hnode
    -- Among what stands right inside the component are the branches of its group.
    have hsublist : (element.branches.map Node.branch).Sublist (Node.component component).children :=
      (List.sublist_append_right _ _).trans (List.sublist_append_left _ _)
    have hnodes (branch : Branch) (hmem : branch ∈ element.branches) : grammar.Has (.branch branch) :=
      hnode.child (hsublist.subset (List.mem_map_of_mem hmem))
    have hbranches := hinside.sublist (hsublist.map Node.span)
    rw [List.map_map] at hbranches
    rw [Component.sites]
    exact warningsRow_element hrows hinside.le element hnodes hbranches
termination_by structural component => component

theorem warningsRow_element (hrows : grammar.InRows) {component : Component} {around : List Component}
    (h : component.span.start ≤ component.span.stop) : (element : Element) →
      (∀ branch ∈ element.branches, grammar.Has (.branch branch)) →
      Row component.span.start (element.branches.map Branch.span) component.span.stop →
      WarningsRow grammar component.span.start (element.sites (component :: around))
        component.span.stop
  | .terminal id, _, _ => warningsRow_single id h
  | .group _ branches, hnodes, hinside => by
    rw [Element.sites]
    exact warningsRow_branches hrows (component :: around) branches hnodes hinside
  | .negation inner, hnodes, hinside => by
    rw [Element.sites]
    exact warningsRow_element hrows h inner hnodes hinside
termination_by structural element => element

theorem warningsRow_branches (hrows : grammar.InRows) (around : List Component) {low high : Nat} :
    (branches : List Branch) → (∀ branch ∈ branches, grammar.Has (.branch branch)) →
      Row low (branches.map Branch.span) high →
      WarningsRow grammar low (sitesOfBranches around branches) high
  | [], _, hinside => hinside
  | first :: others, hnodes, hinside => by
    obtain ⟨hfirst, hothers⟩ := List.forall_mem_cons.1 hnodes
    obtain ⟨hstart, -, hrest⟩ := hinside
    rw [sitesOfBranches]
    exact .cons hstart (warningsRow_branch hrows around first hfirst)
      (warningsRow_branches hrows around others hothers hrest)
termination_by structural branches => branches

end

/-- The warnings about productions, which stand in a row, stand in a row themselves. -/
theorem warningsRow_productions (hrows : grammar.InRows) {productions : List Production}
    (hnodes : ∀ production ∈ productions, grammar.Has (.production production))
    (hinside : Row low (productions.map Production.span) high) :
    WarningsRow grammar low
      (productions.flatMap fun production => sitesOfBranches [] production.branches) high := by
  induction productions generalizing low with
  | nil => exact hinside
  | cons first others ih =>
    obtain ⟨hfirst, hothers⟩ := List.forall_mem_cons.1 hnodes
    obtain ⟨hstart, -, hrest⟩ := hinside
    have hbranches (branch : Branch) (hmem : branch ∈ first.branches) :
        grammar.Has (.branch branch) := hfirst.child (List.mem_map_of_mem hmem)
    have hrow : Row first.span.start (first.branches.map Branch.span) first.span.stop := by
      simpa [Node.children, Node.span, Function.comp_def] using hrows _ hfirst
    rw [List.flatMap_cons]
    exact .cons hstart (warningsRow_branches hrows [] first.branches hbranches hrow) (ih hothers hrest)

end

/-! ## Parsed grammars -/

/-- What is reported of a grammar: errors for repeated productions, and then warnings for names that no
production has. -/
structure Reported (grammar : Grammar) (diagnostics : Diagnostics) : Prop where
  /-- These are the diagnostics, and there are no others. -/
  entries_eq : diagnostics.entries =
    ((repeated grammar).map fun production =>
        ⟨.error, production.span, s!"Production '{production.name}' is defined more than once"⟩) ++
      grammar.sites.filterMap (unknownAt? grammar)
  /-- The errors come in the order of the text. -/
  errors_ordered : ((repeated grammar).map Production.span).Pairwise fun left right =>
    left.stop ≤ right.start
  /-- So do the warnings. -/
  warnings_ordered : ((grammar.sites.filterMap (unknownAt? grammar)).map Diagnostic.span).Pairwise
    fun left right => left.stop ≤ right.start
  /-- There is a site for each terminal, as often as it occurs. -/
  sites_eq : grammar.sites.map Site.id = leavesOfProductions grammar.productions
  /-- A site knows the components around the terminal, and which one is the innermost. -/
  sites_iff : ∀ site, site ∈ grammar.sites ↔ site.StandsIn grammar
  /-- The arena has the terminal of each site. -/
  knows : grammar.arena.Knows (leavesOfProductions grammar.productions)
  /-- There are errors if and only if two productions have the same name. -/
  hasErrors_iff : diagnostics.hasErrors = true ↔
    ¬ (grammar.productions.map Production.name).Nodup

/-- The errors are reported first, and then the warnings. -/
theorem entries_ofGrammar (grammar : Grammar) :
    (Compiled.ofGrammar grammar).diagnostics.entries = duplicates grammar ++ unknownNames grammar := by
  simp [Compiled.ofGrammar, Diagnostics.empty]

theorem severity_of_mem_unknownNames {grammar : Grammar} {warning : Diagnostic}
    (h : warning ∈ unknownNames grammar) : warning.severity = .warning := by
  rw [unknownNames_eq, List.mem_filterMap] at h
  obtain ⟨site, -, hwarning⟩ := h
  obtain ⟨_, _, _, rfl⟩ := eq_of_unknownAt?_eq_some hwarning
  rfl

/-- Warnings about names are not errors, so there are errors where names are given twice only. -/
theorem hasErrors_ofGrammar (grammar : Grammar) :
    (Compiled.ofGrammar grammar).diagnostics.hasErrors = true ↔ duplicates grammar ≠ [] := by
  rw [Diagnostics.hasErrors, entries_ofGrammar, List.any_eq_true]
  constructor
  · rintro ⟨diagnostic, hmem, hseverity⟩ hnone
    rw [hnone, List.nil_append] at hmem
    rw [severity_of_mem_unknownNames hmem] at hseverity
    contradiction
  · intro hsome
    obtain ⟨error, hmem⟩ := List.exists_mem_of_ne_nil _ hsome
    refine ⟨error, List.mem_append_left _ hmem, ?_⟩
    rw [duplicates_eq, List.mem_map] at hmem
    obtain ⟨production, -, rfl⟩ := hmem
    rfl

/-- **What is reported of a parsed grammar**: an error for each production whose name an earlier one
has, and then a warning for each place where a name stands that no production has, at the innermost
component around it. -/
theorem reported_of_parse {source : Source} {grammar : Grammar}
    (h : (parse source).result = .ok grammar) :
    Reported grammar (Compiled.ofGrammar grammar).diagnostics := by
  have hrows := inRows_of_parse h
  have hproductions : Row grammar.span.start (grammar.productions.map Production.span)
      grammar.span.stop := by
    simpa [Node.children, Node.span, Function.comp_def] using hrows _ .self
  have hnodes (production : Production) (hmem : production ∈ grammar.productions) :
      grammar.Has (.production production) := Has.self.child (List.mem_map_of_mem hmem)
  constructor
  case entries_eq =>
    rw [entries_ofGrammar, duplicates_eq, unknownNames_eq]
    rfl
  case errors_ordered =>
    exact (hproductions.sublist ((repeated_sublist grammar).map Production.span)).pairwise
  case warnings_ordered =>
    exact Row.pairwise (warningsRow_productions hrows hnodes hproductions)
  case sites_eq => exact map_id_sites grammar
  case sites_iff => exact fun site => mem_sites_iff
  case knows => exact (safeIn_of_parse h).knows
  case hasErrors_iff => rw [hasErrors_ofGrammar, ← duplicates_eq_nil_iff]

/-- In a small text two productions share a name, and names are unknown in a negated group, behind that
group in the same branch, and in an assertion. -/
theorem reported_of_parse_small : ∃ grammar,
    (parse (.ofString "grammar G { a : ~(x a) y ; b : a ; a : (?= b z) ; }")).result = .ok grammar ∧
      (Compiled.ofGrammar grammar).diagnostics.entries.map (fun entry => (entry.severity, entry.span)) =
        [(.error, ⟨35, 49⟩), (.warning, ⟨18, 19⟩), (.warning, ⟨23, 24⟩), (.warning, ⟨45, 46⟩)] ∧
      Reported grammar (Compiled.ofGrammar grammar).diagnostics := by
  have hentries :
      (parse (.ofString "grammar G { a : ~(x a) y ; b : a ; a : (?= b z) ; }")).result.toOption.map
        (fun grammar => (Compiled.ofGrammar grammar).diagnostics.entries.map
          fun entry => (entry.severity, entry.span)) =
        some [(.error, ⟨35, 49⟩), (.warning, ⟨18, 19⟩), (.warning, ⟨23, 24⟩), (.warning, ⟨45, 46⟩)] := by
    rw [result_parse_words]
    decide +kernel
  obtain ⟨grammar, hsome, hfound⟩ := Option.map_eq_some_iff.1 hentries
  have hparsed := Scan.ok_of_toOption hsome
  exact ⟨grammar, hparsed, hfound, reported_of_parse hparsed⟩

end GrammarLang.Check

import GrammarLang.Grammar.Tree

/-! # Visiting grammars

A **`Visitor`** goes through a grammar from left to right and changes a state on its way. It is
given by what it does at each kind of node. At a node with nodes inside, it also gets the walk
through these and decides itself whether to take it; by default it takes the walk and does nothing
else, so a visitor says only what it cares about.

* **`Visitor.visit`** — go through a whole grammar.
* **`Visitor.recorder`** — the visitor that writes down every node it meets as an **`Event`**.
* **`Visitor.terminalCollector`** — the visitor that writes down the terminals it meets. -/

namespace GrammarLang.Grammar

/-- What is done at each kind of node. The functions for nodes with nodes inside get the walk
through these. -/
structure Visitor (State : Type) where
  /-- At a production. -/
  production : Production → (State → State) → State → State := fun _ walkOn => walkOn
  /-- At a branch. -/
  branch : Branch → (State → State) → State → State := fun _ walkOn => walkOn
  /-- At a component. -/
  component : Component → (State → State) → State → State := fun _ walkOn => walkOn
  /-- At an element. -/
  element : Element → (State → State) → State → State := fun _ walkOn => walkOn
  /-- At a terminal, which has its place in the arena. -/
  terminal : TerminalId → Terminal → State → State := fun _ _ state => state
  /-- At a suffix. -/
  suffix : Suffix → State → State := fun _ state => state
  /-- At code. -/
  code : CodeSegment → State → State := fun _ state => state

namespace Visitor

variable {State : Type}

/-- Visits code that may be missing. -/
def visitCode (visitor : Visitor State) (code : Option CodeSegment) (state : State) : State :=
  code.elim state fun segment => visitor.code segment state

/-- Visits suffixes in order. -/
def visitSuffixes (visitor : Visitor State) (suffixes : List Suffix) (state : State) : State :=
  suffixes.foldl (fun reached suffix => visitor.suffix suffix reached) state

/-- Visits the terminal at a place of the arena. -/
def visitTerminal (visitor : Visitor State) (arena : Arena) (id : TerminalId) (state : State) :
    State :=
  (arena.get? id).elim state fun terminal => visitor.terminal id terminal state

mutual

/-- Visits a branch. -/
def visitBranch (visitor : Visitor State) (arena : Arena) : Branch → State → State
  | ⟨span, components⟩ =>
    visitor.branch ⟨span, components⟩ (visitComponents visitor arena components)

/-- Visits components in order. -/
def visitComponents (visitor : Visitor State) (arena : Arena) : List Component → State → State
  | [], state => state
  | first :: others, state =>
    visitComponents visitor arena others (visitComponent visitor arena first state)

/-- Visits a component; what stands around the element is visited where it stands in the text. -/
def visitComponent (visitor : Visitor State) (arena : Arena) : Component → State → State
  | ⟨span, label, predicate, codeBefore, element, suffixes, codeAfter⟩ =>
    visitor.component ⟨span, label, predicate, codeBefore, element, suffixes, codeAfter⟩
      fun state =>
        visitor.visitCode codeAfter <| visitor.visitSuffixes suffixes <|
          visitElement visitor arena element <|
            visitor.visitCode codeBefore <| visitor.visitCode predicate state

/-- Visits an element. -/
def visitElement (visitor : Visitor State) (arena : Arena) : Element → State → State
  | .terminal id => visitor.element (.terminal id) (visitor.visitTerminal arena id)
  | .group kind branches =>
    visitor.element (.group kind branches) (visitBranches visitor arena branches)
  | .negation inner => visitor.element (.negation inner) (visitElement visitor arena inner)

/-- Visits branches in order. -/
def visitBranches (visitor : Visitor State) (arena : Arena) : List Branch → State → State
  | [], state => state
  | first :: others, state =>
    visitBranches visitor arena others (visitBranch visitor arena first state)

end

/-- Visits a production. -/
def visitProduction (visitor : Visitor State) (arena : Arena) (production : Production) :
    State → State :=
  visitor.production production (visitor.visitBranches arena production.branches)

/-- Visits the productions of a grammar in order. -/
def visit (visitor : Visitor State) (grammar : Grammar) (state : State) : State :=
  grammar.productions.foldl
    (fun reached production => visitor.visitProduction grammar.arena production reached) state

end Visitor

/-- A node that a visitor met. -/
inductive Event
  /-- A production. -/
  | production (production : Production)
  /-- A branch. -/
  | branch (branch : Branch)
  /-- A component. -/
  | component (component : Component)
  /-- An element. -/
  | element (element : Element)
  /-- A terminal with its place in the arena. -/
  | terminal (id : TerminalId) (terminal : Terminal)
  /-- A suffix. -/
  | suffix (suffix : Suffix)
  /-- Code. -/
  | code (code : CodeSegment)

namespace Visitor

/-- Writes down every node, each before the nodes inside it. -/
def recorder : Visitor (Array Event) where
  production node walkOn events := walkOn (events.push (.production node))
  branch node walkOn events := walkOn (events.push (.branch node))
  component node walkOn events := walkOn (events.push (.component node))
  element node walkOn events := walkOn (events.push (.element node))
  terminal id node events := events.push (.terminal id node)
  suffix node events := events.push (.suffix node)
  code node events := events.push (.code node)

/-- Writes down the places of the terminals. -/
def terminalCollector : Visitor (Array TerminalId) where
  terminal id _ ids := ids.push id

end Visitor

/-- Every node of a grammar, each before the nodes inside it. -/
def events (grammar : Grammar) : List Event := (Visitor.recorder.visit grammar #[]).toList

/-- The place of every terminal of a grammar, as often as it occurs. -/
def occurrences (grammar : Grammar) : List TerminalId :=
  (Visitor.terminalCollector.visit grammar #[]).toList

end GrammarLang.Grammar

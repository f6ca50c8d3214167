import GrammarLang.Check.Inventory
import GrammarLang.Proofs.Grammar.Parsed

/-! # Walks through a grammar

A visitor that does something of its own at terminals and productions only meets the terminals of a
tree from left to right: **`Visitor.visitBranches_eq`**. So the terminals that are written down on a
walk are those of the tree, **`occurrences_eq`**, and the inventory of a grammar whose terminals are
numbered as they come lists the numbers in order: **`terminals_inventory`**. -/

namespace GrammarLang.Grammar

open GrammarLang.Check (Inventory)

/-- The arena has a terminal at each of some places. -/
def Arena.Knows (arena : Arena) (ids : List TerminalId) : Prop :=
  ∀ id ∈ ids, (arena.get? id).isSome = true

namespace Visitor

variable {State : Type} {visitor : Visitor State} {arena : Arena}

/-- Below a production the visitor does something of its own at terminals only. -/
structure AtTerminals (visitor : Visitor State) : Prop where
  /-- It goes on at a branch. -/
  branch : ∀ node walkOn, visitor.branch node walkOn = walkOn
  /-- It goes on at a component. -/
  component : ∀ node walkOn, visitor.component node walkOn = walkOn
  /-- It goes on at an element. -/
  element : ∀ node walkOn, visitor.element node walkOn = walkOn
  /-- It passes a suffix. -/
  suffix : ∀ suffix state, visitor.suffix suffix state = state
  /-- It passes code. -/
  code : ∀ code state, visitor.code code state = state

/-- What the visitor does at some terminals, one after another. -/
def visitTerminals (visitor : Visitor State) (arena : Arena) (ids : List TerminalId)
    (state : State) : State :=
  ids.foldl (fun reached id => visitor.visitTerminal arena id reached) state

theorem visitTerminals_append (ids further : List TerminalId) (state : State) :
    visitor.visitTerminals arena (ids ++ further) state =
      visitor.visitTerminals arena further (visitor.visitTerminals arena ids state) :=
  List.foldl_append

namespace AtTerminals

theorem visitCode_eq (h : visitor.AtTerminals) (code : Option CodeSegment) (state : State) :
    visitor.visitCode code state = state := by
  cases code with
  | none => rfl
  | some segment => exact h.code segment state

theorem visitSuffixes_eq (h : visitor.AtTerminals) (suffixes : List Suffix) (state : State) :
    visitor.visitSuffixes suffixes state = state := by
  rw [visitSuffixes]
  simp only [h.suffix]
  exact List.foldl_fixed suffixes

mutual

/-- A walk through a branch meets its terminals from left to right. -/
theorem visitBranch_eq (h : visitor.AtTerminals) : (branch : Branch) → ∀ state,
    visitor.visitBranch arena branch state = visitor.visitTerminals arena branch.leaves state
  | ⟨_, components⟩, state => by
    rw [visitBranch, h.branch, Branch.leaves]
    exact h.visitComponents_eq components state

theorem visitComponents_eq (h : visitor.AtTerminals) : (components : List Component) → ∀ state,
    visitor.visitComponents arena components state =
      visitor.visitTerminals arena (leavesOfComponents components) state
  | [], _ => rfl
  | first :: others, state => by
    rw [visitComponents, h.visitComponent_eq first, h.visitComponents_eq others, leavesOfComponents,
      visitTerminals_append]

theorem visitComponent_eq (h : visitor.AtTerminals) : (component : Component) → ∀ state,
    visitor.visitComponent arena component state =
      visitor.visitTerminals arena component.leaves state
  | ⟨_, _, predicate, codeBefore, element, suffixes, codeAfter⟩, state => by
    rw [visitComponent, h.component, Component.leaves, h.visitCode_eq, h.visitSuffixes_eq,
      h.visitCode_eq, h.visitCode_eq]
    exact h.visitElement_eq element state

theorem visitElement_eq (h : visitor.AtTerminals) : (element : Element) → ∀ state,
    visitor.visitElement arena element state = visitor.visitTerminals arena element.leaves state
  | .terminal id, state => by
    rw [visitElement, h.element, Element.leaves]
    rfl
  | .group _ branches, state => by
    rw [visitElement, h.element, Element.leaves]
    exact h.visitBranches_eq branches state
  | .negation inner, state => by
    rw [visitElement, h.element, Element.leaves]
    exact h.visitElement_eq inner state

/-- A walk through branches meets their terminals from left to right. -/
theorem visitBranches_eq (h : visitor.AtTerminals) : (branches : List Branch) → ∀ state,
    visitor.visitBranches arena branches state =
      visitor.visitTerminals arena (leavesOfBranches branches) state
  | [], _ => rfl
  | first :: others, state => by
    rw [visitBranches, h.visitBranch_eq first, h.visitBranches_eq others, leavesOfBranches,
      visitTerminals_append]

end

end AtTerminals

/-! ## Writing terminals down -/

theorem atTerminals_terminalCollector : terminalCollector.AtTerminals where
  branch _ _ := rfl
  component _ _ := rfl
  element _ _ := rfl
  suffix _ _ := rfl
  code _ _ := rfl

/-- Terminals that the arena knows are written down as they come. -/
theorem visitTerminals_terminalCollector {ids : List TerminalId} (h : arena.Knows ids)
    (soFar : Array TerminalId) :
    terminalCollector.visitTerminals arena ids soFar = soFar ++ ids.toArray := by
  induction ids generalizing soFar with
  | nil => simp [visitTerminals]
  | cons id ids ih =>
    obtain ⟨hid, hids⟩ := List.forall_mem_cons.1 h
    obtain ⟨terminal, hterminal⟩ := Option.isSome_iff_exists.1 hid
    have hpush : terminalCollector.visitTerminal arena id soFar = soFar.push id := by
      rw [visitTerminal, hterminal]
      rfl
    change terminalCollector.visitTerminals arena ids (visitTerminal _ arena id soFar) = _
    rw [hpush, ih hids]
    simp

theorem visitProductions_terminalCollector {productions : List Production}
    (h : arena.Knows (leavesOfProductions productions)) (ids : Array TerminalId) :
    productions.foldl (fun reached production =>
        terminalCollector.visitProduction arena production reached) ids =
      ids ++ (leavesOfProductions productions).toArray := by
  induction productions generalizing ids with
  | nil => simp [leavesOfProductions]
  | cons first others ih =>
    rw [leavesOfProductions, List.flatMap_cons] at h ⊢
    obtain ⟨hfirst, hothers⟩ := List.forall_mem_append.1 h
    have hbranches : terminalCollector.visitProduction arena first ids =
        ids ++ (leavesOfBranches first.branches).toArray :=
      (atTerminals_terminalCollector.visitBranches_eq first.branches ids).trans
        (visitTerminals_terminalCollector hfirst ids)
    rw [List.foldl_cons, hbranches, ih hothers]
    simp [leavesOfProductions]

end Visitor

/-- A walk through a grammar misses no terminal that the arena knows. -/
theorem occurrences_eq {grammar : Grammar}
    (h : grammar.arena.Knows (leavesOfProductions grammar.productions)) :
    grammar.occurrences = leavesOfProductions grammar.productions := by
  rw [occurrences, Visitor.visit, Visitor.visitProductions_terminalCollector h]
  simp

/-! ## Listing them once -/

section

variable {arena : Arena}

theorem atTerminals_collector : Inventory.collector.AtTerminals where
  branch _ _ := rfl
  component _ _ := rfl
  element _ _ := rfl
  suffix _ _ := rfl
  code _ _ := rfl

/-- Where the first `known` places are listed and terminals come as they are numbered, the places up
to the last number are listed afterwards. -/
theorem visitTerminals_collector {known later : Nat} {ids : List TerminalId}
    (hnumbered : Numbered known ids later) (hknows : arena.Knows ids) {inventory : Inventory}
    (h : inventory.terminals.toList = (List.range known).map TerminalId.mk) :
    (Inventory.collector.visitTerminals arena ids inventory).terminals.toList =
        (List.range later).map TerminalId.mk ∧
      (Inventory.collector.visitTerminals arena ids inventory).productions =
        inventory.productions := by
  induction hnumbered generalizing inventory with
  | nil => exact ⟨h, rfl⟩
  | @old known later id ids met others ih =>
    obtain ⟨hid, hids⟩ := List.forall_mem_cons.1 hknows
    obtain ⟨terminal, hterminal⟩ := Option.isSome_iff_exists.1 hid
    have hmem : id ∈ inventory.terminals := by
      rw [← Array.mem_toList_iff, h]
      exact List.mem_map.2 ⟨id.index, List.mem_range.2 met, rfl⟩
    have hstep : Inventory.collector.visitTerminal arena id inventory = inventory := by
      rw [Visitor.visitTerminal, hterminal]
      exact if_pos hmem
    change (Inventory.collector.visitTerminals arena ids
      (Inventory.collector.visitTerminal arena id inventory)).terminals.toList = _ ∧
        (Inventory.collector.visitTerminals arena ids
          (Inventory.collector.visitTerminal arena id inventory)).productions = _
    rw [hstep]
    exact ih hids h
  | @new known later id ids next others ih =>
    obtain ⟨hid, hids⟩ := List.forall_mem_cons.1 hknows
    obtain ⟨terminal, hterminal⟩ := Option.isSome_iff_exists.1 hid
    have hfresh : id ∉ inventory.terminals := by
      rw [← Array.mem_toList_iff, h, List.mem_map]
      rintro ⟨index, hindex, rfl⟩
      have hlt := List.mem_range.1 hindex
      exact absurd next (Nat.ne_of_lt hlt)
    have hstep : Inventory.collector.visitTerminal arena id inventory =
        { inventory with terminals := inventory.terminals.push id } := by
      rw [Visitor.visitTerminal, hterminal]
      exact if_neg hfresh
    change (Inventory.collector.visitTerminals arena ids
      (Inventory.collector.visitTerminal arena id inventory)).terminals.toList = _ ∧
        (Inventory.collector.visitTerminals arena ids
          (Inventory.collector.visitTerminal arena id inventory)).productions = _
    rw [hstep]
    refine ih hids ?_
    rw [Array.toList_push, h, List.range_succ, List.map_append, ← next]
    rfl

/-- What is listed on a walk through productions whose terminals come as they are numbered. -/
theorem visitProductions_collector {known later : Nat} {productions : List Production}
    (hnumbered : Numbered known (leavesOfProductions productions) later)
    (hknows : arena.Knows (leavesOfProductions productions)) {inventory : Inventory}
    (h : inventory.terminals.toList = (List.range known).map TerminalId.mk) :
    let listed := productions.foldl (fun reached production =>
      Inventory.collector.visitProduction arena production reached) inventory
    listed.terminals.toList = (List.range later).map TerminalId.mk ∧
      listed.productions.toList = inventory.productions.toList ++ productions.map Production.name := by
  induction productions generalizing known inventory with
  | nil =>
    cases hnumbered
    exact ⟨h, (List.append_nil _).symm⟩
  | cons first others ih =>
    rw [leavesOfProductions, List.flatMap_cons] at hnumbered hknows
    obtain ⟨middle, hfirst, hothers⟩ := numbered_append.1 hnumbered
    obtain ⟨hknowsFirst, hknowsOthers⟩ := List.forall_mem_append.1 hknows
    let named : Inventory := { inventory with productions := inventory.productions.push first.name }
    have hwalk : Inventory.collector.visitProduction arena first inventory =
        Inventory.collector.visitTerminals arena (leavesOfBranches first.branches) named :=
      atTerminals_collector.visitBranches_eq first.branches named
    have hnamed : named.terminals.toList = (List.range known).map TerminalId.mk := h
    obtain ⟨hterminals, hproductions⟩ := visitTerminals_collector hfirst hknowsFirst hnamed
    obtain ⟨hlisted, hnames⟩ := ih hothers hknowsOthers hterminals
    rw [List.foldl_cons, hwalk]
    refine ⟨hlisted, hnames.trans ?_⟩
    rw [hproductions, List.map_cons]
    simp [named]

end

/-- The inventory of a grammar whose terminals are numbered as they come lists each of them once, by
its number, and the names of the productions in order. -/
theorem inventory_eq {grammar : Grammar}
    (hnumbered : Numbered 0 (leavesOfProductions grammar.productions) grammar.arena.size)
    (hknows : grammar.arena.Knows (leavesOfProductions grammar.productions)) :
    (Inventory.ofGrammar grammar).terminals.toList = grammar.arena.ids ∧
      (Inventory.ofGrammar grammar).productions.toList =
        grammar.productions.map Production.name := by
  have hempty : (Inventory.mk #[] #[]).terminals.toList = (List.range 0).map TerminalId.mk := rfl
  exact visitProductions_collector hnumbered hknows hempty

end GrammarLang.Grammar

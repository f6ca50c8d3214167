import GrammarLang.Grammar.Visitor
import GrammarLang.Journal

/-! # Inventories

An **`Inventory`** lists what a program generated from a grammar has to know: every terminal that
occurs in it and the name of every production, both in the order they first appear.
**`Inventory.ofGrammar`** makes it. -/

namespace GrammarLang.Check

open GrammarLang.Grammar

/-- The terminals and productions of a grammar. -/
structure Inventory where
  /-- The terminals that occur, each once, by first occurrence. -/
  terminals : Array TerminalId
  /-- The names of the productions, in order. -/
  productions : Array String

namespace Inventory

/-- Lists productions and terminals on the way through a grammar. Equal terminals have the same id,
so only ids are compared. -/
def collector : Visitor Inventory where
  production node walkOn inventory :=
    walkOn { inventory with productions := inventory.productions.push node.name }
  terminal id _ inventory :=
    if id ∈ inventory.terminals then inventory
    else { inventory with terminals := inventory.terminals.push id }

/-- The inventory of a grammar. -/
def ofGrammar (grammar : Grammar) : Inventory := collector.visit grammar ⟨#[], #[]⟩

/-- The terminals of the inventory with their ids. -/
def terminalsIn (inventory : Inventory) (arena : Arena) : List (TerminalId × Terminal) :=
  inventory.terminals.toList.filterMap fun id => (arena.get? id).map (id, ·)

/-- The line of a journal that tells of the inventory of a grammar. -/
def announcement (inventory : Inventory) (grammar : Grammar) : Entry where
  detail := .debug
  message := s!"Grammar '{grammar.name}' has {inventory.productions.size} productions " ++
    s!"and {inventory.terminals.size} distinct terminals"

end Inventory

end GrammarLang.Check

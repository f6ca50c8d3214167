import GrammarLang.Check.Inventory
import GrammarLang.Check.Names

/-! # Compiled grammars

**`Compiled.ofGrammar`** checks a grammar and takes its inventory. The errors about duplicate
productions come before the warnings about unknown names. -/

namespace GrammarLang.Check

/-- A grammar with what is known about it. -/
structure Compiled where
  /-- The grammar. -/
  grammar : Grammar
  /-- What was found in it. -/
  diagnostics : Diagnostics
  /-- Its terminals and productions. -/
  inventory : Inventory

namespace Compiled

/-- Checks a grammar and takes its inventory. -/
def ofGrammar (grammar : Grammar) : Compiled where
  grammar := grammar
  diagnostics := (Diagnostics.empty.reportAll (duplicates grammar)).reportAll (unknownNames grammar)
  inventory := .ofGrammar grammar

/-- What there is to tell about the checks. -/
def journal (compiled : Compiled) : Journal :=
  compiled.diagnostics.journal ++ [compiled.inventory.announcement compiled.grammar]

end Compiled

end GrammarLang.Check

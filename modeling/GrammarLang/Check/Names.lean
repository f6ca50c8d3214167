import GrammarLang.Check.Diagnostic
import GrammarLang.Grammar.Visitor

/-! # Names in a grammar

A grammar should give each name to one production only, and a terminal that is a name usually means
a production.

* **`duplicates`** — an error for each production whose name was given before.
* **`unknownNames`** — a warning for each name, where it is used, that no production has: it may
  stand for a token that comes from elsewhere. -/

namespace GrammarLang.Check

open GrammarLang.Grammar GrammarLang.Text

/-- The error about a production whose name was given before. -/
def duplicate (production : Production) : Diagnostic :=
  ⟨.error, production.span, s!"Production '{production.name}' is defined more than once"⟩

/-- The errors about productions whose names were given before, where `names` were given already. -/
def duplicatesAfter (names : List String) : List Production → List Diagnostic
  | [] => []
  | production :: productions =>
    if production.name ∈ names then duplicate production :: duplicatesAfter names productions
    else duplicatesAfter (production.name :: names) productions

/-- An error for each production whose name was given before. -/
def duplicates (grammar : Grammar) : List Diagnostic := duplicatesAfter [] grammar.productions

/-- The warning about a name that no production has. -/
def unknownName (span : Span) (name : String) : Diagnostic :=
  ⟨.warning, span, s!"'{name}' does not name a production"⟩

/-- What is known on the way through a grammar while names are looked up. -/
structure NameSearch where
  /-- Where the innermost component around stands. -/
  span : Span
  /-- The warnings so far. -/
  warnings : Array Diagnostic

/-- Looks up the names in a grammar. -/
def nameSearcher (grammar : Grammar) : Visitor NameSearch where
  component node walkOn search :=
    { walkOn { search with span := node.span } with span := search.span }
  terminal _ terminal search :=
    match terminal with
    | .ident name =>
      if (grammar.production? name).isSome then search
      else { search with warnings := search.warnings.push (unknownName search.span name) }
    | _ => search

/-- A warning for each use of a name that no production has, at the component it belongs to. -/
def unknownNames (grammar : Grammar) : List Diagnostic :=
  ((nameSearcher grammar).visit grammar ⟨grammar.span, #[]⟩).warnings.toList

end GrammarLang.Check

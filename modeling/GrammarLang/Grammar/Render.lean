import GrammarLang.Grammar.Tree

/-! # Writing grammars

**`Grammar.render`** writes a grammar in its own notation, one production a line. Between two tokens
there is one space or nothing: a suffix touches the element before it, a label its sign, and a
negation the element behind it. Since terminals are kept by id, the parts of a grammar are written
with the arena at hand. -/

namespace GrammarLang.Grammar

/-- The token that opens a group. -/
def GroupKind.opening : GroupKind → String
  | .plain => "("
  | .ahead => "(?="
  | .notAhead => "(?!"

/-- The terminal at a place, as it is written. -/
def Arena.renderAt (arena : Arena) (id : TerminalId) : String :=
  (arena.get? id).elim "" Terminal.render

mutual

/-- The components of a branch, each with a space in front. -/
def Branch.render (arena : Arena) : Branch → String
  | ⟨_, components⟩ => renderComponents arena components

/-- Components, each with a space in front. -/
def renderComponents (arena : Arena) : List Component → String
  | [] => ""
  | first :: others => " " ++ first.render arena ++ renderComponents arena others

/-- A component: the predicate, the code before it, the label, the element, the suffixes, and the
code behind it. -/
def Component.render (arena : Arena) : Component → String
  | ⟨_, label, predicate, codeBefore, element, suffixes, codeAfter⟩ =>
    predicate.elim "" (fun code => code.render ++ "? ") ++
      codeBefore.elim "" (fun code => code.render ++ " ") ++
      label.elim "" (fun name => name ++ "=") ++
      element.render arena ++
      String.join (suffixes.map Suffix.render) ++
      codeAfter.elim "" (fun code => " " ++ code.render)

/-- An element. -/
def Element.render (arena : Arena) : Element → String
  | .terminal id => arena.renderAt id
  | .group kind branches => kind.opening ++ renderBranches arena branches ++ " )"
  | .negation inner => "~" ++ inner.render arena

/-- Branches with bars between them. -/
def renderBranches (arena : Arena) : List Branch → String
  | [] => ""
  | [last] => last.render arena
  | first :: second :: others =>
    first.render arena ++ " |" ++ renderBranches arena (second :: others)

end

/-- A production on a line of its own. -/
def Production.render (arena : Arena) (production : Production) : String :=
  "    " ++ production.name ++ " :" ++ renderBranches arena production.branches ++ " ;\n"

/-- A grammar as it is written. -/
def render (grammar : Grammar) : String :=
  "grammar " ++ grammar.name ++ " \x7b\n" ++
    String.join (grammar.productions.map (Production.render grammar.arena)) ++ "\x7d"

end GrammarLang.Grammar

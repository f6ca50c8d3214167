import GrammarLang.Grammar.Suffix
import GrammarLang.Grammar.Terminal
import GrammarLang.Text.Source

/-! # Grammar trees

A **`Grammar`** has productions; each **`Production`** gives a name to a choice of branches. A
**`Branch`** is a sequence of components, and a **`Component`** is an element with what may stand
around it: a label, suffixes, and code. An **`Element`** is a terminal, a group of branches, or the
negation of an element.

Nodes know their place in the source text, but two branches are **`Branch.same`** wherever they
stand: terminals are compared by id, code by its text. -/

namespace GrammarLang.Grammar

open GrammarLang.Text

/-- Code between braces. -/
structure CodeSegment where
  /-- Where the code stands, braces included. -/
  span : Span
  /-- The code without its braces. -/
  text : String
  deriving DecidableEq, Repr, Inhabited

/-- The code as it is written. -/
def CodeSegment.render (code : CodeSegment) : String := "\x7b" ++ code.text ++ "\x7d"

/-- What a group does with the text that its branches match. -/
inductive GroupKind
  /-- Takes it. -/
  | plain
  /-- Only makes sure that it comes next. -/
  | ahead
  /-- Only makes sure that it does not come next. -/
  | notAhead
  deriving DecidableEq, Repr, Inhabited

mutual

/-- One of several choices: a sequence of components. -/
structure Branch where
  /-- From the first component to the last; empty for an empty branch. -/
  span : Span
  /-- The components, in order. -/
  components : List Component

/-- An element with what stands around it. -/
structure Component where
  /-- Where all of it stands. -/
  span : Span
  /-- The name for what the element matches. -/
  label : Option String
  /-- Code that decides whether the component applies. -/
  predicate : Option CodeSegment
  /-- Code to run before the element. -/
  codeBefore : Option CodeSegment
  /-- The element. -/
  element : Element
  /-- How often the element may occur. -/
  suffixes : List Suffix
  /-- Code to run behind the element. -/
  codeAfter : Option CodeSegment

/-- What a component matches. -/
inductive Element where
  /-- A terminal. -/
  | terminal (id : TerminalId)
  /-- A choice of branches between parentheses. -/
  | group (kind : GroupKind) (branches : List Branch)
  /-- Nothing where the inner element would match. -/
  | negation (inner : Element)

end

/-- A name for a choice of branches. -/
structure Production where
  /-- From the name through the semicolon. -/
  span : Span
  /-- The name. -/
  name : String
  /-- The branches, in order. -/
  branches : List Branch

/-- Whether two pieces of code have the same text, or are both missing. -/
def sameCode (left right : Option CodeSegment) : Bool :=
  left.map CodeSegment.text = right.map CodeSegment.text

mutual

/-- Whether two branches are the same but for their place. -/
def Branch.same : Branch → Branch → Bool
  | ⟨_, left⟩, ⟨_, right⟩ => sameComponents left right

/-- Whether two lists of components are the same but for their places. -/
def sameComponents : List Component → List Component → Bool
  | [], [] => true
  | left :: lefts, right :: rights => left.same right && sameComponents lefts rights
  | _, _ => false

/-- Whether two components are the same but for their places. -/
def Component.same : Component → Component → Bool
  | ⟨_, label, predicate, codeBefore, element, suffixes, codeAfter⟩, other =>
    label = other.label && sameCode predicate other.predicate &&
      sameCode codeBefore other.codeBefore && element.same other.element &&
      suffixes = other.suffixes && sameCode codeAfter other.codeAfter

/-- Whether two elements are the same but for their places. -/
def Element.same : Element → Element → Bool
  | .terminal left, .terminal right => left = right
  | .group kind left, .group kind' right => kind = kind' && sameBranches left right
  | .negation left, .negation right => left.same right
  | _, _ => false

/-- Whether two lists of branches are the same but for their places. -/
def sameBranches : List Branch → List Branch → Bool
  | [], [] => true
  | left :: lefts, right :: rights => left.same right && sameBranches lefts rights
  | _, _ => false

end

end GrammarLang.Grammar

namespace GrammarLang

open GrammarLang.Text

/-- A grammar. -/
structure Grammar where
  /-- From the keyword through the closing brace. -/
  span : Span
  /-- The name. -/
  name : String
  /-- The productions, in order. -/
  productions : List Grammar.Production
  /-- The terminals of all productions. -/
  arena : Grammar.Arena

namespace Grammar

/-- The first production of a name. -/
def production? (grammar : Grammar) (name : String) : Option Production :=
  grammar.productions.find? fun production => production.name = name

/-- Whether two grammars have the same name and, one by one, productions with the same name and the
same branches. -/
def same (left right : Grammar) : Bool :=
  left.name = right.name && left.productions.length = right.productions.length &&
    (left.productions.zip right.productions).all fun (mine, other) =>
      mine.name = other.name && sameBranches mine.branches other.branches

end Grammar

end GrammarLang

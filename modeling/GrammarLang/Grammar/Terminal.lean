import GrammarLang.Grammar.RegexSet

/-! # Terminals and their arena

A **`Terminal`** is what a grammar is made of in the end: a name, a string, a number or a set of
texts given by a regular expression. A grammar keeps each of its terminals once, in an **`Arena`**,
and refers to it by its **`TerminalId`**, so equal terminals are recognised by their ids.
**`Arena.intern`** gives the id of a terminal, and adds the terminal if it is new. -/

namespace GrammarLang.Grammar

/-- A terminal of a grammar. -/
inductive Terminal
  /-- The name of a production, or of a token that comes from elsewhere. -/
  | ident (name : String)
  /-- A text. -/
  | string (value : String)
  /-- A number. -/
  | number (value : UInt64)
  /-- A set of texts. -/
  | set (set : RegexSet)

/-- What makes two terminals the same. -/
inductive TerminalKey
  /-- A name. -/
  | ident (name : String)
  /-- A text. -/
  | string (value : String)
  /-- A number. -/
  | number (value : UInt64)
  /-- A regular expression and its flags, as written. -/
  | set (source flags : String)
  deriving DecidableEq, Repr

namespace Terminal

/-- What makes a terminal the same as another one. -/
def key : Terminal → TerminalKey
  | ident name => .ident name
  | string value => .string value
  | number value => .number value
  | set regexSet => .set regexSet.source regexSet.flags

/-- Whether two terminals are the same. -/
def same (left right : Terminal) : Bool := left.key = right.key

/-- The kind of a terminal, in one word. -/
def kindName : Terminal → String
  | ident _ => "ident"
  | string _ => "string"
  | number _ => "number"
  | set _ => "set"

/-- The terminal as it is written in a grammar. -/
def render : Terminal → String
  | ident name => name
  | string value => String.ofList (quote value.toList)
  | number value => toString value.toNat
  | set regexSet => s!"/{regexSet.source}/{regexSet.flags}"

end Terminal

/-- The place of a terminal in the arena of its grammar. -/
structure TerminalId where
  /-- How many terminals come before it. -/
  index : Nat
  deriving DecidableEq, Repr, Inhabited

/-- The name of a place. -/
def TerminalId.render (id : TerminalId) : String := s!"terminal{id.index}"

/-- The terminals of a grammar, each once. -/
structure Arena where
  /-- The terminals, in the order they were added. -/
  terminals : List Terminal

namespace Arena

/-- An arena without terminals. -/
def empty : Arena := ⟨[]⟩

/-- Number of terminals. -/
def size (arena : Arena) : Nat := arena.terminals.length

/-- The terminal at a place. -/
def get? (arena : Arena) (id : TerminalId) : Option Terminal := arena.terminals[id.index]?

/-- The places of the arena, in order. -/
def ids (arena : Arena) : List TerminalId := (List.range arena.size).map TerminalId.mk

/-- The place of a terminal, and the arena that has it there: a terminal that the arena has already
keeps its place, any other is added at the end. -/
def intern (arena : Arena) (terminal : Terminal) : TerminalId × Arena :=
  match arena.terminals.findIdx? terminal.same with
  | some index => (⟨index⟩, arena)
  | none => (⟨arena.size⟩, ⟨arena.terminals ++ [terminal]⟩)

end Arena

end GrammarLang.Grammar

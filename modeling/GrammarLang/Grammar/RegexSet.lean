import GrammarLang.Grammar.Literal

/-! # Sets of texts

A **`RegexSet`** is a set of texts given by a regular expression with flags behind it.
**`RegexSet.compile`** makes one, unless a letter is no flag or the expression is none. The letters
are looked at first. -/

namespace GrammarLang.Grammar

/-- A set of texts, given by a regular expression. -/
structure RegexSet where
  /-- The expression as it was written. -/
  source : String
  /-- The flags written behind it. -/
  flags : String
  /-- The expression to search with. -/
  regex : Regex

/-- Why an expression with flags gives no set of texts. -/
inductive RegexSetError
  /-- A letter is no flag; `index` letters come before it. -/
  | unknownFlag (letter : Char) (index : Nat)
  /-- The expression is no regular expression. -/
  | invalidRegex
  deriving DecidableEq, Repr, Inhabited

namespace RegexSet

/-- The reading that letters ask for, on top of `flags`, and whether they ask for an expression that
is spaced out. The first letter that is no flag is given back instead, with its place behind `index`
others. -/
def readFlags (flags : Regex.Flags) (spacedOut : Bool) (index : Nat) :
    List Char → Except RegexSetError (Regex.Flags × Bool)
  | [] => .ok (flags, spacedOut)
  | 'i' :: letters => readFlags { flags with anyCase := true } spacedOut (index + 1) letters
  | 'm' :: letters => readFlags { flags with multiLine := true } spacedOut (index + 1) letters
  | 's' :: letters => readFlags { flags with dotAll := true } spacedOut (index + 1) letters
  | 'U' :: letters => readFlags { flags with swapGreed := true } spacedOut (index + 1) letters
  | 'x' :: letters => readFlags flags true (index + 1) letters
  | letter :: _ => .error (.unknownFlag letter index)

/-- The set of texts that an expression with flags gives. -/
def compile (source flags : String) : Except RegexSetError RegexSet := do
  let (reading, spacedOut) ← readFlags {} false 0 flags.toList
  match Regex.compile? ⟨reading, true⟩ spacedOut source.toList with
  | some regex => .ok ⟨source, flags, regex⟩
  | none => .error .invalidRegex

end RegexSet

end GrammarLang.Grammar

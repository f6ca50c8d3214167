import GrammarLang.Regex.Letter

/-! # Regular expressions

An **`Expr`** is a regular expression in its plainest form: flags and escapes are resolved, and what
is left are texts, sets of characters or bytes, conditions on a spot, and the ways to combine
expressions. `GrammarLang.Regex.Compose` says how larger expressions are put together. -/

namespace GrammarLang.Regex

open GrammarLang.Unicode (Ranges)

/-- A regular expression. -/
inductive Expr
  /-- Matches without taking any text. -/
  | empty
  /-- Matches a given text. -/
  | text (letters : List Letter)
  /-- Matches one character of a set. -/
  | char (set : Ranges)
  /-- Matches one byte of a set. -/
  | byte (set : Ranges)
  /-- Matches without taking any text where a condition holds. -/
  | look (condition : Look)
  /-- Matches an expression that has a number of its own, which sets it apart from others that match
  the same. -/
  | group (number : Nat) (body : Expr)
  /-- Matches the first expression and then the second. -/
  | seq (first second : Expr)
  /-- Matches the first expression or else the second. -/
  | alt (first second : Expr)
  /-- Matches an expression over and over, at least `least` times and at most `most` times. A greedy
  repetition goes on as long as it can, any other stops as soon as it can. -/
  | repeated (body : Expr) (least : Nat) (most : Option Nat) (greedy : Bool)
  deriving DecidableEq, Repr

namespace Expr

/-- Whether the expression may match without taking any text. -/
def nullable : Expr → Bool
  | .empty => true
  | .text letters => letters.isEmpty
  | .char _ => false
  | .byte _ => false
  | .look _ => true
  | .group _ body => body.nullable
  | .seq first second => first.nullable && second.nullable
  | .alt first second => first.nullable || second.nullable
  | .repeated body least _ _ => least == 0 || body.nullable

/-- Whether the expression can match in no other way than without taking any text. -/
def takesNothing : Expr → Bool
  | .empty => true
  | .text letters => letters.isEmpty
  | .char _ => false
  | .byte _ => false
  | .look _ => true
  | .group _ body => body.takesNothing
  | .seq first second => first.takesNothing && second.takesNothing
  | .alt first second => first.takesNothing && second.takesNothing
  | .repeated body _ _ _ => body.takesNothing

/-- Whether the expression is a text or a set, which match in one way at most. -/
def isSingle : Expr → Bool
  | .text _ => true
  | .char _ => true
  | .byte _ => true
  | .group _ body => body.isSingle
  | _ => false

/-- Whether the expression visibly matches at the start of a text only. -/
def anchored : Expr → Bool
  | .look .textStart => true
  | .group _ body => body.anchored
  | .seq first _ => first.anchored
  | .alt first second => first.anchored && second.anchored
  | _ => false

end Expr

end GrammarLang.Regex

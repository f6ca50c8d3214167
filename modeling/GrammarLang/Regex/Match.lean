import GrammarLang.Regex.Expr
import GrammarLang.Regex.Loop

/-! # The ends of the matches of an expression

An expression may match several stretches of text from one spot. **`Expr.ends`** lists where these
end, most preferred first: the first choice of an alternative before the second, and long
repetitions before short ones where they are greedy. The first of them is *the* match at that spot:
**`Expr.firstEnd?`**.

Listing all ends takes long where there are many ways to match. **`Expr.isPlain`** holds of
expressions where there are few, because their loops do not multiply. -/

namespace GrammarLang.Regex

namespace Expr

variable {text : List Char}

/-- Where the matches of an expression from a spot end, most preferred first. -/
def ends : Expr → Spot text → List (Spot text)
  | .empty, spot => [spot]
  | .text letters, spot => (spot.past? letters).toList
  | .char set, spot =>
    match spot.nextChar? with
    | some (c, after) => if set.contains c.toNat then [after] else []
    | none => []
  | .byte set, spot =>
    match spot.nextByte? with
    | some (octet, after) => if set.contains octet.toNat then [after] else []
    | none => []
  | .look condition, spot => if condition.holds spot then [spot] else []
  | .group _ body, spot => body.ends spot
  | .seq first second, spot => follow (first.ends spot) second.ends
  | .alt first second, spot => distinct (first.ends spot ++ second.ends spot)
  | .repeated body least most greedy, spot =>
    if body.isSingle then
      strides Spot.remaining (fun place => (body.ends place).head?) least most greedy spot
    else rounds Spot.remaining body.ends least most greedy spot

/-- Where the match of an expression from a spot ends. -/
def firstEnd? (expr : Expr) (spot : Spot text) : Option (Spot text) := (expr.ends spot).head?

/-- More ways than a plain expression has. -/
def manyWays : Nat := 64

/-- About how many ways there are to match, and `manyWays` at most. A loop without a last round
counts as eight rounds. It has many ways if a round may take no text, or may itself be gone through
in many ways, as the rounds then multiply. -/
def ways : Expr → Nat
  | .empty => 1
  | .text _ => 1
  | .char _ => 1
  | .byte _ => 1
  | .look _ => 1
  | .group _ body => body.ways
  | .seq first second => min manyWays (first.ways * second.ways)
  | .alt first second => min manyWays (first.ways + second.ways)
  | .repeated body least most _ =>
    match most with
    | none => if body.nullable || 4 < body.ways then manyWays else 8 * body.ways
    | some most =>
      if body.ways = 1 then min manyWays (most - least + 1)
      else if most ≤ 1 then min manyWays (body.ways + 1)
      else manyWays

/-- Whether there are few ways to match. -/
def isPlain (expr : Expr) : Bool := expr.ways < manyWays

@[simp] theorem ends_empty (spot : Spot text) : Expr.empty.ends spot = [spot] := rfl

@[simp] theorem ends_text (letters : List Letter) (spot : Spot text) :
    (Expr.text letters).ends spot = (spot.past? letters).toList := rfl

@[simp] theorem ends_group (number : Nat) (body : Expr) (spot : Spot text) :
    (Expr.group number body).ends spot = body.ends spot := rfl

@[simp] theorem ends_look (condition : Look) (spot : Spot text) :
    (Expr.look condition).ends spot = if condition.holds spot then [spot] else [] := rfl

@[simp] theorem ends_seq (first second : Expr) (spot : Spot text) :
    (Expr.seq first second).ends spot = follow (first.ends spot) second.ends := rfl

@[simp] theorem ends_alt (first second : Expr) (spot : Spot text) :
    (Expr.alt first second).ends spot = distinct (first.ends spot ++ second.ends spot) := rfl

/-- A set matches the next character if it belongs to the set. -/
theorem ends_char_cons (set : Unicode.Ranges) {spot : Spot text} {c : Char} {cs : List Char}
    (h : spot.rest = c :: cs) (hinner : spot.inner = 0) :
    (Expr.char set).ends spot = if set.contains c.toNat then [spot.behind h] else [] := by
  simp only [ends, Spot.nextChar?_eq_some h hinner]

/-- At the end of a text no set matches. -/
theorem ends_char_nil (set : Unicode.Ranges) {spot : Spot text} (h : spot.rest = []) :
    (Expr.char set).ends spot = [] := by
  simp only [ends, Spot.nextChar?_eq_none h]

/-- An anchored expression matches nowhere but at the start of a text. -/
theorem ends_eq_nil_of_anchored {expr : Expr} {spot : Spot text} (h : expr.anchored = true)
    (hspot : spot.before ≠ none ∨ spot.inner ≠ 0) : expr.ends spot = [] := by
  induction expr generalizing spot with
  | look condition =>
    cases condition <;> simp only [anchored, Bool.false_eq_true] at h
    rcases hspot with hspot | hspot <;> simp [Look.holds, hspot]
  | group _ body ih => simp [ih h hspot]
  | seq first second ih _ => simp [ih h hspot]
  | alt first second ih₁ ih₂ =>
    simp only [anchored, Bool.and_eq_true] at h
    simp [ih₁ h.1 hspot, ih₂ h.2 hspot]
  | empty => simp [anchored] at h
  | text => simp [anchored] at h
  | char => simp [anchored] at h
  | byte => simp [anchored] at h
  | repeated => simp [anchored] at h

end Expr

end GrammarLang.Regex

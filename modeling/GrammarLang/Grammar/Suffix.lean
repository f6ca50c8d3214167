/-! # Suffixes

A **`Suffix`** says how often the element before it may occur. The usual bounds have signs of their
own, and **`Suffix.ofBounds`** always chooses the sign over the written bounds, so that a suffix
made by it is determined by its **`Suffix.bounds`**. -/

namespace GrammarLang.Grammar

/-- How often an element may occur. -/
inductive Suffix
  /-- Any number of times. -/
  | zeroOrMore
  /-- At least once. -/
  | oneOrMore
  /-- At most once. -/
  | optional
  /-- At least `lower` times and, if there is an upper bound, at most that many times. -/
  | range (lower : UInt64) (upper : Option UInt64)
  deriving DecidableEq, Repr, Inhabited

namespace Suffix

/-- The suffix with the given bounds. -/
def ofBounds (lower : UInt64) (upper : Option UInt64) : Suffix :=
  if lower = 0 ∧ upper = none then zeroOrMore
  else if lower = 1 ∧ upper = none then oneOrMore
  else if lower = 0 ∧ upper = some 1 then optional
  else range lower upper

/-- The least number of times, and the greatest if there is one. -/
def bounds : Suffix → UInt64 × Option UInt64
  | zeroOrMore => (0, none)
  | oneOrMore => (1, none)
  | optional => (0, some 1)
  | range lower upper => (lower, upper)

/-- The suffix as it is written. -/
def render : Suffix → String
  | zeroOrMore => "*"
  | oneOrMore => "+"
  | optional => "?"
  | range lower none => s!"\x7b{lower.toNat},\x7d"
  | range lower (some upper) =>
    if lower = upper then s!"\x7b{lower.toNat}\x7d" else s!"\x7b{lower.toNat},{upper.toNat}\x7d"

/-- A suffix has the bounds it was made from. -/
@[simp] theorem bounds_ofBounds (lower : UInt64) (upper : Option UInt64) :
    (ofBounds lower upper).bounds = (lower, upper) := by
  unfold ofBounds
  split
  · rename_i h; simp [bounds, h]
  · split
    · rename_i h; simp [bounds, h]
    · split
      · rename_i h; simp [bounds, h]
      · rfl

/-- The suffix that a sign stands for; any other sign is read as the question mark. -/
def ofSign (sign : String) : Suffix :=
  match sign with
  | "*" => zeroOrMore
  | "+" => oneOrMore
  | _ => optional

end Suffix

end GrammarLang.Grammar

import GrammarLang.Unicode.Ranges

/-! # Sets of character codes

A **`CodeSet`** is built from ranges by the operations of set algebra. It is kept as the expression
that built it: **`CodeSet.contains`** evaluates it at one code, and **`CodeSet.toRanges`** as a
whole. -/

namespace GrammarLang.Unicode

/-- A set of codes, as an expression. -/
inductive CodeSet
  /-- The codes of some ranges. -/
  | ranges (table : Ranges)
  /-- The codes in either set. -/
  | union (left right : CodeSet)
  /-- The codes in both sets. -/
  | inter (left right : CodeSet)
  /-- The codes in the left set only. -/
  | diff (left right : CodeSet)
  /-- The codes outside the set. -/
  | compl (inner : CodeSet)
  deriving Repr

namespace CodeSet

/-- Whether a code belongs to the set. -/
def contains : CodeSet → Nat → Bool
  | .ranges table, code => table.contains code
  | .union left right, code => left.contains code || right.contains code
  | .inter left right, code => left.contains code && right.contains code
  | .diff left right, code => left.contains code && !right.contains code
  | .compl inner, code => !inner.contains code

/-- The codes of the characters in the set. -/
def toRanges : CodeSet → Ranges
  | .ranges table => table.join
  | .union left right => left.toRanges.union right.toRanges
  | .inter left right => left.toRanges.inter right.toRanges
  | .diff left right => left.toRanges.diff .chars right.toRanges
  | .compl inner => inner.toRanges.complement .chars

/-- The empty set. -/
def empty : CodeSet := .ranges []

/-- The set of one code. -/
def single (code : Nat) : CodeSet := .ranges [(code, code)]

/-- The codes from a first to a last one. -/
def interval (first last : Nat) : CodeSet := .ranges [(first, last)]

/-- The codes in any of the sets. -/
def unions (sets : List CodeSet) : CodeSet := sets.foldr .union empty

/-- The set that goes by a name, in a list of sets with their names. -/
def named? (sets : List (List String × CodeSet)) (name : String) : Option CodeSet :=
  (sets.find? fun (names, _) => names.contains name).map (·.2)

@[simp] theorem contains_ranges (table : Ranges) (code : Nat) :
    (ranges table).contains code = table.contains code := rfl

@[simp] theorem contains_union (left right : CodeSet) (code : Nat) :
    (union left right).contains code = (left.contains code || right.contains code) := rfl

@[simp] theorem contains_inter (left right : CodeSet) (code : Nat) :
    (inter left right).contains code = (left.contains code && right.contains code) := rfl

@[simp] theorem contains_diff (left right : CodeSet) (code : Nat) :
    (diff left right).contains code = (left.contains code && !right.contains code) := rfl

@[simp] theorem contains_compl (inner : CodeSet) (code : Nat) :
    (compl inner).contains code = !inner.contains code := rfl

@[simp] theorem contains_empty (code : Nat) : empty.contains code = false := rfl

theorem contains_interval (first last code : Nat) :
    (interval first last).contains code = (decide (first ≤ code) && decide (code ≤ last)) := by
  rw [interval, contains_ranges, Ranges.contains_cons]
  by_cases h : code < first
  · rw [if_pos h, decide_eq_false (Nat.not_le.2 h), Bool.false_and]
  · rw [if_neg h, decide_eq_true (Nat.not_lt.1 h), Bool.true_and, Ranges.contains_nil,
      Bool.or_false]

@[simp] theorem contains_single (member code : Nat) :
    (single member).contains code = (member == code) := by
  rw [show single member = interval member member from rfl, contains_interval]
  rw [Bool.eq_iff_iff]
  simp only [Bool.and_eq_true, decide_eq_true_eq, beq_iff_eq]
  omega

end CodeSet

end GrammarLang.Unicode

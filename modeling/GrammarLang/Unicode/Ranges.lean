/-! # Ranges of character codes

A property of characters is given by the **`Ranges`** of the codes that have it: pairs of a first
and a last code, in ascending order and apart from one another, so that a set of codes has one such
list only. The same lists serve for bytes, whose codes end at 255; an **`Alphabet`** says which of
the two is meant where that matters.

* **`Ranges.contains`** — membership of one code.
* **`Ranges.union`**, **`Ranges.inter`**, **`Ranges.diff`**, **`Ranges.symmDiff`**,
  **`Ranges.complement`** — the algebra of sets, each in one pass over its arguments. -/

namespace GrammarLang.Unicode

/-- What the codes of a set are codes of. -/
inductive Alphabet
  /-- Characters. The codes from 0xD800 to 0xDFFF, the surrogates, are no characters. -/
  | chars
  /-- Bytes. -/
  | bytes
  deriving DecidableEq, Repr

namespace Alphabet

/-- The greatest code. -/
def last : Alphabet → Nat
  | .chars => 0x10FFFF
  | .bytes => 0xFF

/-- The code behind another one. -/
def next (alphabet : Alphabet) (code : Nat) : Nat :=
  if alphabet = .chars ∧ code = 0xD7FF then 0xE000 else code + 1

/-- The code before another one. -/
def previous (alphabet : Alphabet) (code : Nat) : Nat :=
  if alphabet = .chars ∧ code = 0xE000 then 0xD7FF else code - 1

end Alphabet

/-- Ranges of codes, each by its first and last code, in ascending order. -/
abbrev Ranges := List (Nat × Nat)

namespace Ranges

/-- Whether a code lies in one of the ranges. As they ascend, the search ends at the first range
that starts beyond the code. -/
def contains : Ranges → Nat → Bool
  | [], _ => false
  | (first, last) :: others, code =>
    if code < first then false else code ≤ last || contains others code

@[simp] theorem contains_nil (code : Nat) : contains [] code = false := rfl

theorem contains_cons (first last code : Nat) (others : Ranges) :
    contains ((first, last) :: others) code =
      if code < first then false else (decide (code ≤ last) || contains others code) := rfl

/-- Whether ranges are in order: none is inverted, and each starts beyond the one before it. -/
def ascending : Ranges → Bool
  | [] => true
  | [(first, last)] => first ≤ last
  | (first, last) :: (next, stop) :: others =>
    first ≤ last && last < next && ascending ((next, stop) :: others)

/-- Joins a range with those behind it that it overlaps or touches. -/
def joinBehind (first last : Nat) : Ranges → Ranges
  | [] => [(first, last)]
  | (next, stop) :: others =>
    if next ≤ last + 1 then joinBehind first (max last stop) others
    else (first, last) :: joinBehind next stop others

/-- Joins ranges that overlap or touch, where they are in the order of their first codes. -/
def join : Ranges → Ranges
  | [] => []
  | (first, last) :: others => joinBehind first last others

/-- The ranges of both lists in the order of their first codes. -/
def interleave : Ranges → Ranges → Ranges
  | [], right => right
  | (first, last) :: left, right =>
    right.takeWhile (·.1 < first) ++
      (first, last) :: interleave left (right.dropWhile (·.1 < first))

/-- The codes in either list. -/
def union (left right : Ranges) : Ranges := join (interleave left right)

/-- The codes in any of some lists. -/
def unions (lists : List Ranges) : Ranges := lists.foldr union []

/-- The codes in both lists. -/
def inter : Ranges → Ranges → Ranges
  | [], _ => []
  | (first, last) :: left, right =>
    let right := right.dropWhile (·.2 < first)
    (right.takeWhile (·.1 ≤ last)).map (fun (next, stop) => (max first next, min last stop)) ++
      inter left right

/-- What some ranges leave of the range from `first` to `last`. -/
def cut (alphabet : Alphabet) (first last : Nat) : Ranges → Ranges
  | [] => [(first, last)]
  | (next, stop) :: others =>
    if stop < first then cut alphabet first last others
    else if last < next then [(first, last)]
    else
      let behind := if stop < last then cut alphabet (alphabet.next stop) last others else []
      if first < next then (first, alphabet.previous next) :: behind else behind

/-- The codes in the left list only. -/
def diff (alphabet : Alphabet) : Ranges → Ranges → Ranges
  | [], _ => []
  | (first, last) :: left, right =>
    let right := right.dropWhile (·.2 < first)
    cut alphabet first last right ++ diff alphabet left right

/-- The codes in exactly one of the lists. -/
def symmDiff (alphabet : Alphabet) (left right : Ranges) : Ranges :=
  diff alphabet (union left right) (inter left right)

/-- The gaps behind a range that ends at `last`, and between the ranges that follow it. Where only
surrogates lie between two ranges, the gap is made of the characters on either side of them. -/
def gapsBehind (alphabet : Alphabet) (last : Nat) : Ranges → Ranges
  | [] => if last < alphabet.last then [(alphabet.next last, alphabet.last)] else []
  | (first, stop) :: others =>
    let behind := alphabet.next last
    let before := alphabet.previous first
    (min behind before, max behind before) :: gapsBehind alphabet stop others

/-- The codes outside the ranges. -/
def complement (alphabet : Alphabet) : Ranges → Ranges
  | [] => [(0, alphabet.last)]
  | (first, last) :: others =>
    let gaps := gapsBehind alphabet last others
    if 0 < first then (0, alphabet.previous first) :: gaps else gaps

/-- The codes of the ranges, or all others. -/
def complementIf (alphabet : Alphabet) (negated : Bool) (ranges : Ranges) : Ranges :=
  if negated then ranges.complement alphabet else ranges

/-- The ranges of some codes. -/
def ofCodes (codes : List Nat) : Ranges := join (codes.mergeSort.map fun code => (code, code))

/-- Whether all codes are those of plain text, below 128. -/
def isPlain (ranges : Ranges) : Bool := ranges.all fun (_, last) => last < 0x80

@[simp] theorem union_nil (ranges : Ranges) : union ranges [] = join ranges := by
  have h : interleave ranges [] = ranges := by
    induction ranges with
    | nil => rfl
    | cons range others ih => simp [interleave, ih]
  rw [union, h]

@[simp] theorem inter_nil (ranges : Ranges) : inter ranges [] = [] := by
  induction ranges with
  | nil => rfl
  | cons range others ih => simpa [inter] using ih

@[simp] theorem diff_nil (alphabet : Alphabet) (ranges : Ranges) :
    diff alphabet ranges [] = ranges := by
  induction ranges with
  | nil => rfl
  | cons range others ih => simpa [diff, cut] using ih

@[simp] theorem complement_nil (alphabet : Alphabet) :
    complement alphabet [] = [(0, alphabet.last)] := rfl

end Ranges

end GrammarLang.Unicode

import GrammarLang.Text.Utf8
import GrammarLang.Unicode.Property

/-! # Spots between the bytes of a text

A regular expression is matched from a **`Spot`** of a text: it knows the text still to come, the
character just before, and, as some expressions match single bytes, how many bytes of the next
character are already behind it. A spot with none of them behind lies between two characters.

* **`Spot.nextChar?`**, **`Spot.nextByte?`** — one step to the right.
* **`Spot.remaining`** — a measure that each step makes smaller.
* **`Look.holds`** — conditions on a spot that take no text, such as being at the start of a line.
  -/

namespace GrammarLang.Regex

open GrammarLang

/-- A place in a text, between two of its bytes. -/
structure Spot (text : List Char) where
  /-- How many characters are not wholly behind. -/
  left : Nat
  /-- Number of bytes of the next character that are already behind. -/
  inner : Nat
  /-- The last character that is wholly behind; none at the start of the text. -/
  before : Option Char
  /-- The characters that are not wholly behind. -/
  rest : List Char
  /-- The characters are counted right. -/
  left_eq : left = rest.length
  /-- The text splits here. -/
  split : ∃ front, text = front ++ rest ∧ before = front.getLast?

namespace Spot

variable {text : List Char}

/-- A spot is known by how much of the text is behind it. -/
theorem eq_of_left_eq {first second : Spot text} (hleft : first.left = second.left)
    (hinner : first.inner = second.inner) : first = second := by
  obtain ⟨left, inner, before, rest, rfl, front, hfront, rfl⟩ := first
  obtain ⟨left', inner', before', rest', rfl, front', hfront', rfl⟩ := second
  simp only at hleft hinner
  subst hinner
  rw [hfront] at hfront'
  obtain ⟨rfl, rfl⟩ := List.append_inj' hfront' hleft
  rfl

instance : DecidableEq (Spot text) := fun first second =>
  if h : first.left = second.left ∧ first.inner = second.inner then
    isTrue (eq_of_left_eq h.1 h.2)
  else isFalse fun heq => h (heq ▸ ⟨rfl, rfl⟩)

/-- A measure of what is left to match. -/
def remaining (spot : Spot text) : Nat := 4 * spot.left - spot.inner

instance : Hashable (Spot text) := ⟨fun spot => hash spot.remaining⟩

/-- The spot at the start of a text, whose length is known. -/
def startOf (text : List Char) (length : Nat) (h : length = text.length) : Spot text :=
  ⟨length, 0, none, text, h, [], rfl, rfl⟩

/-- The spot at the start of a text. -/
def start (text : List Char) : Spot text := startOf text text.length rfl

@[simp] theorem startOf_eq_start (text : List Char) (length : Nat) (h : length = text.length) :
    startOf text length h = start text := eq_of_left_eq h rfl

@[simp] theorem rest_start (text : List Char) : (start text).rest = text := rfl

@[simp] theorem inner_start (text : List Char) : (start text).inner = 0 := rfl

@[simp] theorem before_start (text : List Char) : (start text).before = none := rfl

/-- How many bytes of the text are behind. -/
def offset (spot : Spot text) : Nat :=
  Text.byteSize text - Text.byteSize spot.rest + spot.inner

/-- The spot behind the next character. -/
def behind (spot : Spot text) {c : Char} {cs : List Char} (h : spot.rest = c :: cs) :
    Spot text where
  left := spot.left - 1
  inner := 0
  before := some c
  rest := cs
  left_eq := by rw [spot.left_eq, h]; simp
  split := by
    obtain ⟨front, hfront, -⟩ := spot.split
    exact ⟨front ++ [c], by rw [hfront, h]; simp, by simp⟩

/-- The next character and the spot behind it, unless the spot lies inside a character. -/
def nextChar? (spot : Spot text) : Option (Char × Spot text) :=
  match h : spot.rest with
  | [] => none
  | c :: _ => if spot.inner = 0 then some (c, spot.behind h) else none

/-- The next byte and the spot behind it. -/
def nextByte? (spot : Spot text) : Option (UInt8 × Spot text) :=
  match h : spot.rest with
  | [] => none
  | c :: _ =>
    let bytes := String.utf8EncodeChar c
    match bytes[spot.inner]? with
    | none => none
    | some byte =>
      if spot.inner + 1 < bytes.length then some (byte, { spot with inner := spot.inner + 1 })
      else some (byte, spot.behind h)

theorem nextChar?_eq_none {spot : Spot text} (h : spot.rest = []) : spot.nextChar? = none := by
  simp only [nextChar?]
  split
  · rfl
  · simp_all

theorem nextChar?_eq_some {spot : Spot text} {c : Char} {cs : List Char} (h : spot.rest = c :: cs)
    (hinner : spot.inner = 0) : spot.nextChar? = some (c, spot.behind h) := by
  simp only [nextChar?]
  split
  · simp_all
  · rename_i d ds hd
    obtain ⟨rfl, rfl⟩ := List.cons.inj (h.symm.trans hd)
    simp [hinner]

theorem remaining_nextChar? {spot after : Spot text} {c : Char}
    (h : spot.nextChar? = some (c, after)) : after.remaining < spot.remaining := by
  have hleft := spot.left_eq
  simp only [nextChar?] at h
  split at h
  · contradiction
  · rename_i d cs hrest
    split at h
    · rename_i hinner
      simp only [Option.some.injEq, Prod.mk.injEq] at h
      obtain ⟨-, rfl⟩ := h
      rw [hrest, List.length_cons] at hleft
      simp only [remaining, behind]
      omega
    · contradiction

theorem remaining_nextByte? {spot after : Spot text} {byte : UInt8}
    (h : spot.nextByte? = some (byte, after)) : after.remaining < spot.remaining := by
  have hleft := spot.left_eq
  simp only [nextByte?] at h
  split at h
  · contradiction
  · rename_i c cs hrest
    split at h
    · contradiction
    · rename_i found hbyte
      have hlt : spot.inner < (String.utf8EncodeChar c).length :=
        (List.getElem?_eq_some_iff.1 hbyte).1
      have hsize := c.utf8Size_le_four
      rw [String.length_utf8EncodeChar] at hlt
      rw [hrest, List.length_cons] at hleft
      split at h <;> simp only [Option.some.injEq, Prod.mk.injEq] at h <;> obtain ⟨-, rfl⟩ := h <;>
        simp only [remaining, behind] <;> omega

/-- The spots from here to the end of the text, those inside characters included. -/
def all (spot : Spot text) : List (Spot text) :=
  match _ : spot.nextByte? with
  | none => [spot]
  | some (_, after) => spot :: all after
termination_by spot.remaining
decreasing_by exact remaining_nextByte? ‹_›

/-- The spots between two characters from here to the end of the text. -/
def between (spot : Spot text) : List (Spot text) :=
  match _ : spot.nextChar? with
  | none => [spot]
  | some (_, after) => spot :: between after
termination_by spot.remaining
decreasing_by exact remaining_nextChar? ‹_›

end Spot

/-- Where a spot lies with respect to the words of a text. -/
inductive WordEdge
  /-- At either end of a word. -/
  | either
  /-- At neither end of a word. -/
  | neither
  /-- At the start of a word. -/
  | start
  /-- At the end of a word. -/
  | stop
  /-- Not behind a character of a word. -/
  | startHalf
  /-- Not before a character of a word. -/
  | stopHalf
  deriving DecidableEq, Repr

/-- A condition on a spot. -/
inductive Look
  /-- At the start of the text. -/
  | textStart
  /-- At the end of the text. -/
  | textEnd
  /-- At the start of a line. -/
  | lineStart
  /-- At the end of a line. -/
  | lineEnd
  /-- At the start of a line, where carriage returns end lines too. -/
  | anyLineStart
  /-- At the end of a line, where carriage returns end lines too. -/
  | anyLineEnd
  /-- At an edge of a word; `plain` says that words consist of plain letters and digits only. -/
  | word (edge : WordEdge) (plain : Bool)
  deriving DecidableEq, Repr

/-- Whether a character belongs to a word of plain letters, digits and underscores. -/
def isPlainWord (c : Char) : Bool := c.isAlphanum || c = '_'

namespace Look

/-- Whether a word edge is at a spot, given whether the characters before and after it belong to
words. -/
def edgeHolds (edge : WordEdge) (before after : Bool) : Bool :=
  match edge with
  | .either => before != after
  | .neither => before == after
  | .start => !before && after
  | .stop => before && !after
  | .startHalf => !before
  | .stopHalf => !after

/-- Whether the condition holds at a spot. Inside a character neither neighbour belongs to a word,
and of the conditions on words only those that ask for a neighbour outside words can hold there,
when the words are plain. -/
def holds {text : List Char} (look : Look) (spot : Spot text) : Bool :=
  let between := spot.inner = 0
  let next := spot.rest.head?
  match look with
  | .textStart => between && spot.before.isNone
  | .textEnd => between && next.isNone
  | .lineStart => between && (spot.before.isNone || spot.before = some '\n')
  | .lineEnd => between && (next.isNone || next = some '\n')
  | .anyLineStart =>
    between && (spot.before.isNone || spot.before = some '\n' ||
      (spot.before = some '\r' && next != some '\n'))
  | .anyLineEnd =>
    between && (next.isNone || next = some '\r' ||
      (next = some '\n' && spot.before != some '\r'))
  | .word edge true =>
    edgeHolds edge (between && spot.before.any isPlainWord) (between && next.any isPlainWord)
  | .word edge false =>
    between && edgeHolds edge (spot.before.any Unicode.isWord) (next.any Unicode.isWord)

end Look

end GrammarLang.Regex

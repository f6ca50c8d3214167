import GrammarLang.Text.Source

/-! # Places in a source text

A **`Cursor`** is a place between two characters of a source text. It knows the text from there on,
and how many bytes are behind it and how many characters before it, so that neither has to be
counted again.

* **`Cursor.start`** — the start of the text.
* **`Cursor.skip`** — some characters further.
* **`Cursor.span`** — the bytes of the next characters. -/

namespace GrammarLang.Text

/-- A place between two characters of a source text. -/
structure Cursor (source : Source) where
  /-- The text from here on. -/
  rest : List Char
  /-- What comes from here on ends the text. -/
  suffix : rest <:+ source.chars
  /-- How many characters come from here on. -/
  left : Nat
  /-- The characters are counted right. -/
  left_eq : left = rest.length
  /-- How many bytes of the text are behind. -/
  offset : Nat
  /-- The bytes behind are those that do not come from here on. -/
  offset_eq : offset + byteSize rest = source.size

namespace Cursor

variable {source : Source}

/-- The start of the text. -/
def start (source : Source) : Cursor source where
  rest := source.chars
  suffix := List.suffix_refl _
  left := source.chars.length
  left_eq := rfl
  offset := 0
  offset_eq := by rw [source.size_eq, Nat.zero_add]

/-- The place `count` characters further, or the end of the text. -/
def skip (cursor : Cursor source) (count : Nat) : Cursor source where
  rest := cursor.rest.drop count
  suffix := (List.drop_suffix count cursor.rest).trans cursor.suffix
  left := cursor.left - count
  left_eq := by rw [cursor.left_eq, List.length_drop]
  offset := cursor.offset + byteSize (cursor.rest.take count)
  offset_eq := by
    rw [Nat.add_assoc, ← byteSize_append, List.take_append_drop, cursor.offset_eq]

/-- The bytes of the next `count` characters. -/
def span (cursor : Cursor source) (count : Nat) : Span :=
  ⟨cursor.offset, cursor.offset + byteSize (cursor.rest.take count)⟩

/-- The text of the next `count` characters. -/
def text (cursor : Cursor source) (count : Nat) : String := String.ofList (cursor.rest.take count)

/-- The line and column. -/
def position (cursor : Cursor source) : Position := source.position cursor.offset

@[simp] theorem rest_start (source : Source) : (start source).rest = source.chars := rfl

@[simp] theorem rest_skip (cursor : Cursor source) (count : Nat) :
    (cursor.skip count).rest = cursor.rest.drop count := rfl

@[simp] theorem left_skip (cursor : Cursor source) (count : Nat) :
    (cursor.skip count).left = cursor.left - count := rfl

/-- A place in the text is never beyond its end. -/
theorem offset_le_size (cursor : Cursor source) : cursor.offset ≤ source.size := by
  have := cursor.offset_eq
  omega

/-- The text splits at a place in it. -/
theorem splitAt?_offset (cursor : Cursor source) :
    ∃ before, splitAt? source.chars cursor.offset = some (before, cursor.rest) := by
  obtain ⟨before, hbefore⟩ := cursor.suffix
  have hsize := cursor.offset_eq
  rw [source.size_eq, ← hbefore, byteSize_append] at hsize
  refine ⟨before, ?_⟩
  rw [← hbefore, show cursor.offset = byteSize before by omega, splitAt?_byteSize]

end Cursor

end GrammarLang.Text

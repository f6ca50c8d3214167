import GrammarLang.Text.Span
import GrammarLang.Text.Utf8

/-! # Source texts and positions in them

A **`Source`** is a whole input text. Offsets into it count bytes; for a reader they are turned into
a **`Position`**, a line and a column that both start at one, where the column counts characters.

* **`Source.position source offset`** — the position of a byte offset, for every offset: one beyond
  the end stands for the end.
* **`Source.slice? source span`**, **`Source.charAt? source offset`** — pieces of the text, where
  the offsets lie between characters. -/

namespace GrammarLang.Text

/-- A place in a text as a reader counts: lines and columns start at one. -/
structure Position where
  /-- Number of the line. -/
  line : Nat
  /-- Number of the character within its line. -/
  column : Nat
  deriving DecidableEq, Repr, Inhabited

/-- Line and column with a colon between them. -/
def Position.render (position : Position) : String := s!"{position.line}:{position.column}"

/-- A whole input text. -/
structure Source where
  /-- The characters of the text, in order. -/
  chars : List Char
  /-- Number of bytes in the text; the offsets of the text go up to it. -/
  size : Nat
  /-- The bytes are those of the characters. -/
  size_eq : size = byteSize chars
  deriving DecidableEq

namespace Source

/-- The source with the characters of a text. -/
def ofString (text : String) : Source := ⟨text.toList, byteSize text.toList, rfl⟩

instance : Inhabited Source := ⟨ofString ""⟩

@[simp] theorem chars_ofString (text : String) : (ofString text).chars = text.toList := rfl

/-- Whether there is no text at all. -/
def isEmpty (source : Source) : Bool := source.chars.isEmpty

/-- What is known of a line after some of its characters. -/
structure LineProgress where
  /-- Number of the line. -/
  line : Nat
  /-- Characters of the line so far. -/
  characters : Nat
  /-- Bytes of the line so far. -/
  bytes : Nat

/-- One character further: a line feed starts the next line. -/
def LineProgress.step (progress : LineProgress) (c : Char) : LineProgress :=
  if c = '\n' then ⟨progress.line + 1, 0, 0⟩
  else ⟨progress.line, progress.characters + 1, progress.bytes + c.utf8Size⟩

/-- The position `offset` bytes into the text `cs`, where `progress` tells of the text before `cs`.
The end of the text stands for any offset beyond it. An offset inside a character has no character
count, so there the column counts bytes. -/
def locate : List Char → Nat → LineProgress → Position
  | [], _, progress => ⟨progress.line, progress.characters + 1⟩
  | c :: cs, offset, progress =>
    if offset = 0 then ⟨progress.line, progress.characters + 1⟩
    else if c.utf8Size ≤ offset then locate cs (offset - c.utf8Size) (progress.step c)
    else ⟨progress.line, progress.bytes + offset + 1⟩

/-- The line and column of a byte offset. -/
def position (source : Source) (offset : Nat) : Position := locate source.chars offset ⟨1, 0, 0⟩

/-- The character that starts at a byte offset. -/
def charAt? (source : Source) (offset : Nat) : Option Char := do
  let (_, after) ← splitAt? source.chars offset
  after.head?

/-- The text of a span. There is none when an end of the span is beyond the text or inside a
character, or when the span is inverted. -/
def slice? (source : Source) (span : Span) : Option String :=
  (Text.slice? source.chars span.start span.stop).map String.ofList

/-- The source in short: only its length is shown. -/
def describe (source : Source) : String :=
  s!"Source \x7b len: {source.size}, .. \x7d"

end Source

end GrammarLang.Text

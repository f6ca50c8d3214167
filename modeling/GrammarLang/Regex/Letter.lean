import GrammarLang.Regex.Spot

/-! # Letters

The plain text inside an expression is a list of **`Letter`**s: characters, and bytes that belong to
no character. **`Letter.cons`** and **`Letter.append`** keep to that: bytes that come to spell a
character become that character, so a text of bytes is written in one way only.
**`Spot.past?`** passes over a text of letters. -/

namespace GrammarLang.Regex

/-- A letter of the plain text in an expression. -/
inductive Letter
  /-- A character. -/
  | char (c : Char)
  /-- A byte, beyond those of plain characters, that is no part of a character. -/
  | byte (octet : UInt8)
  deriving DecidableEq, Repr

namespace Letter

/-- The bytes in front of the first character. -/
def leadingBytes : List Letter → List UInt8
  | .byte octet :: letters => octet :: leadingBytes letters
  | _ => []

/-- Puts a letter in front of others. A byte that spells a character together with the bytes behind
it becomes that character. -/
def cons : Letter → List Letter → List Letter
  | .char c, letters => .char c :: letters
  | .byte octet, letters =>
    match ByteArray.utf8DecodeChar? (octet :: leadingBytes letters).toByteArray 0 with
    | some c => .char c :: letters.drop (c.utf8Size - 1)
    | none => .byte octet :: letters

/-- Puts some letters in front of others. -/
def append (front letters : List Letter) : List Letter := front.foldr cons letters

@[simp] theorem cons_char (c : Char) (letters : List Letter) :
    cons (.char c) letters = .char c :: letters := rfl

@[simp] theorem append_nil_left (letters : List Letter) : append [] letters = letters := rfl

/-- Between characters nothing changes. -/
@[simp] theorem append_map_char (cs : List Char) (letters : List Letter) :
    append (cs.map .char) letters = cs.map .char ++ letters := by
  induction cs with
  | nil => rfl
  | cons c cs ih =>
    simp only [append] at ih
    simp [append, ih]

end Letter

namespace Spot

variable {text : List Char}

/-- The spot behind a given letter, if it is the next one. -/
def pastLetter? (spot : Spot text) : Letter → Option (Spot text)
  | .char c =>
    match spot.nextChar? with
    | some (d, after) => if d = c then some after else none
    | none => none
  | .byte octet =>
    match spot.nextByte? with
    | some (other, after) => if other = octet then some after else none
    | none => none

/-- The spot behind some given letters, if they come next. -/
def past? (spot : Spot text) : List Letter → Option (Spot text)
  | [] => some spot
  | letter :: letters =>
    match spot.pastLetter? letter with
    | some after => after.past? letters
    | none => none

@[simp] theorem past?_nil (spot : Spot text) : spot.past? [] = some spot := rfl

theorem past?_cons (spot : Spot text) (letter : Letter) (letters : List Letter) :
    spot.past? (letter :: letters) = (spot.pastLetter? letter).bind (past? · letters) := by
  simp only [past?]
  split <;> simp_all

theorem remaining_pastLetter? {spot after : Spot text} {letter : Letter}
    (h : spot.pastLetter? letter = some after) : after.remaining < spot.remaining := by
  cases letter with
  | char c =>
    simp only [pastLetter?] at h
    split at h
    · split at h <;> simp only [Option.some.injEq, reduceCtorEq] at h
      exact h ▸ remaining_nextChar? ‹_›
    · contradiction
  | byte octet =>
    simp only [pastLetter?] at h
    split at h
    · split at h <;> simp only [Option.some.injEq, reduceCtorEq] at h
      exact h ▸ remaining_nextByte? ‹_›
    · contradiction

end Spot

end GrammarLang.Regex

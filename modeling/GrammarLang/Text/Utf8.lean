/-! # Lengths of text in bytes

Offsets into a text count the bytes of its UTF-8 form, while the text itself is a list of
characters. This module ties the two together.

* **`byteSize cs`** — how many bytes the characters `cs` take.
* **`splitAt? cs n`** — the text before and after byte offset `n`; there is no answer when `n` lies
  beyond the end or inside a character.
* **`slice? cs start stop`** — the text between two byte offsets, under the same proviso. -/

namespace GrammarLang.Text

/-- Number of bytes in the UTF-8 form of a text. -/
def byteSize : List Char → Nat
  | [] => 0
  | c :: cs => c.utf8Size + byteSize cs

@[simp] theorem byteSize_nil : byteSize [] = 0 := rfl

@[simp] theorem byteSize_cons (c : Char) (cs : List Char) :
    byteSize (c :: cs) = c.utf8Size + byteSize cs := rfl

@[simp] theorem byteSize_append (left right : List Char) :
    byteSize (left ++ right) = byteSize left + byteSize right := by
  induction left with
  | nil => simp
  | cons c cs ih => simp [ih, Nat.add_assoc]

/-- Only the empty text takes no bytes. -/
theorem byteSize_pos {cs : List Char} (h : cs ≠ []) : 0 < byteSize cs := by
  cases cs with
  | nil => exact absurd rfl h
  | cons c cs => have := c.utf8Size_pos; simp only [byteSize_cons]; omega

/-- A text has no more characters than bytes. -/
theorem length_le_byteSize (cs : List Char) : cs.length ≤ byteSize cs := by
  induction cs with
  | nil => exact Nat.le_refl _
  | cons c cs ih =>
    have hsize : 0 < c.utf8Size := c.utf8Size_pos
    rw [List.length_cons, byteSize_cons]
    omega

/-- The text before and after a byte offset. There is none when the offset is beyond the end or
inside a character. -/
def splitAt? : List Char → Nat → Option (List Char × List Char)
  | [], offset => if offset = 0 then some ([], []) else none
  | c :: cs, offset =>
    if offset = 0 then some ([], c :: cs)
    else if c.utf8Size ≤ offset then
      (splitAt? cs (offset - c.utf8Size)).map fun (before, after) => (c :: before, after)
    else none

@[simp] theorem splitAt?_zero (cs : List Char) : splitAt? cs 0 = some ([], cs) := by
  cases cs <;> simp [splitAt?]

/-- Splitting where a first part ends gives that part and the rest back. -/
@[simp] theorem splitAt?_byteSize (left right : List Char) :
    splitAt? (left ++ right) (byteSize left) = some (left, right) := by
  induction left with
  | nil => simp
  | cons c cs ih =>
    have := c.utf8Size_pos
    rw [List.cons_append, byteSize_cons, splitAt?, if_neg (by omega), if_pos (by omega),
      Nat.add_sub_cancel_left, ih]
    rfl

/-- A split cuts the text in two where the offset says. -/
theorem eq_append_of_splitAt? {cs before after : List Char} {offset : Nat}
    (h : splitAt? cs offset = some (before, after)) :
    cs = before ++ after ∧ offset = byteSize before := by
  induction cs generalizing before after offset with
  | nil =>
    simp only [splitAt?] at h
    split at h <;> simp_all
  | cons c cs ih =>
    simp only [splitAt?] at h
    split at h
    · simp_all
    · split at h
      · obtain ⟨⟨front, back⟩, hsplit, heq⟩ := Option.map_eq_some_iff.1 h
        obtain ⟨rfl, rfl⟩ := Prod.mk.inj heq
        obtain ⟨rfl, hoffset⟩ := ih hsplit
        exact ⟨rfl, by simp only [byteSize_cons]; omega⟩
      · simp at h

/-- The text between two byte offsets. There is none when an offset is beyond the end or inside a
character, or when the offsets are in the wrong order. -/
def slice? (cs : List Char) (start stop : Nat) : Option (List Char) :=
  if start ≤ stop then do
    let (_, after) ← splitAt? cs start
    let (middle, _) ← splitAt? after (stop - start)
    return middle
  else none

/-- The slice between the two ends of a middle part is that part. -/
@[simp] theorem slice?_append (left middle right : List Char) :
    slice? (left ++ (middle ++ right)) (byteSize left) (byteSize left + byteSize middle)
      = some middle := by
  simp [slice?]

end GrammarLang.Text

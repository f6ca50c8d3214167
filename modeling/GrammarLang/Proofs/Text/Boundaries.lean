import GrammarLang.Proofs.Text.Positions
import Mathlib.Order.Bounds.Basic

/-! # Cutting back to whole characters

A number of bytes may reach into a character. It is cut back byte by byte, until it takes whole
characters only; whether it does is told by the byte behind.

* **`IsCharBoundary`** — an offset lies between two characters; **`isAtChar_iff`** — the bytes of a
  text tell this.
* **`cutBack?`** — cuts an offset back; **`exists_cutBack`** — this comes to an end in front of the
  text at the latest, at the last offset between two characters. -/

namespace GrammarLang.Text

variable {cs before behind : List Char} {offset inside : Nat}

/-! ## Between characters -/

/-- An offset that lies between two characters of a text, or at one of its ends. -/
def IsCharBoundary (cs : List Char) (offset : Nat) : Prop :=
  ∃ before behind, cs = before ++ behind ∧ offset = byteSize before

theorem isCharBoundary_zero (cs : List Char) : IsCharBoundary cs 0 := ⟨[], cs, rfl, rfl⟩

/-- Where an offset reaches into a character, no place between two characters is behind the start of
that character, up to the offset. -/
theorem Divides.le_byteSize (h : Divides cs offset before behind inside) {place : Nat}
    (hplace : IsCharBoundary cs place) (hle : place ≤ offset) : place ≤ byteSize before := by
  obtain ⟨front, back, hchars, rfl⟩ := hplace
  obtain ⟨more, rfl, rfl⟩ | ⟨more, rfl, -⟩ :=
    List.append_eq_append_iff.1 (h.chars_eq.symm.trans hchars)
  · -- What the place has behind the start of the character is that whole character at least.
    cases more with
    | nil => rw [List.append_nil]
    | cons c more =>
      have hoffset := h.offset_eq
      have hsize : 0 < c.utf8Size := c.utf8Size_pos
      rw [byteSize_append, byteSize_cons] at hle
      obtain hzero | ⟨d, hhead, hlt⟩ := h.inside_lt
      · omega
      · obtain rfl : c = d := Option.some.inj hhead
        omega
  · rw [byteSize_append]
    exact Nat.le_add_right _ _

/-- The last place between two characters up to an offset is the start of the character that the
offset reaches into. -/
theorem Divides.isGreatest (h : Divides cs offset before behind inside) :
    IsGreatest {place | IsCharBoundary cs place ∧ place ≤ offset} (byteSize before) := by
  refine ⟨⟨⟨before, behind, h.chars_eq, rfl⟩, ?_⟩, fun place hplace =>
    h.le_byteSize hplace.1 hplace.2⟩
  rw [h.offset_eq]
  exact Nat.le_add_right _ _

/-- An offset that divides a text is not beyond its end. -/
theorem Divides.le_size (h : Divides cs offset before behind inside) : offset ≤ byteSize cs := by
  rw [h.offset_eq, h.chars_eq, byteSize_append]
  obtain rfl | ⟨c, hhead, hlt⟩ := h.inside_lt
  · omega
  · obtain ⟨rest, rfl⟩ := List.head?_eq_some_iff.1 hhead
    rw [byteSize_cons]
    omega

/-- An offset lies between two characters just if it reaches into none. -/
theorem Divides.isCharBoundary_iff (h : Divides cs offset before behind inside) :
    IsCharBoundary cs offset ↔ inside = 0 := by
  have hoffset := h.offset_eq
  constructor
  · intro hplace
    have hle := h.le_byteSize hplace (Nat.le_refl _)
    omega
  · rintro rfl
    exact ⟨before, behind, h.chars_eq, hoffset⟩

theorem IsCharBoundary.le_byteSize (h : IsCharBoundary cs offset) : offset ≤ byteSize cs := by
  obtain ⟨before, behind, rfl, rfl⟩ := h
  rw [byteSize_append]
  exact Nat.le_add_right _ _

/-! ## Between characters, by the bytes -/

/-- Whether an offset into the bytes of a text lies at the start or at the end of the text, or in
front of a byte that starts a character. -/
def isAtChar (bytes : List UInt8) (offset : Nat) : Bool :=
  offset = 0 ||
    match bytes[offset]? with
    | some octet => octet.IsUTF8FirstByte
    | none => offset = bytes.length

/-- The byte at an offset is one of the character that the offset reaches into. -/
theorem Divides.getElem?_bytesOf {c : Char} {rest : List Char}
    (h : Divides cs offset before (c :: rest) inside) (hinside : inside < c.utf8Size) :
    (bytesOf cs)[offset]? = (String.utf8EncodeChar c)[inside]? := by
  rw [h.chars_eq, h.offset_eq, bytesOf_append, ← length_bytesOf before,
    List.getElem?_append_right (Nat.le_add_right _ _), Nat.add_sub_cancel_left, bytesOf_cons,
    List.getElem?_append_left (by rwa [String.length_utf8EncodeChar])]

/-- The bytes of a text tell where its characters start. -/
theorem isAtChar_iff : isAtChar (bytesOf cs) offset = true ↔ IsCharBoundary cs offset := by
  by_cases hle : offset ≤ byteSize cs
  · obtain ⟨before, behind, inside, h⟩ := exists_divides hle
    rw [h.isCharBoundary_iff]
    cases behind with
    | nil =>
      have hinside : inside = 0 := h.inside_lt.resolve_right (by simp)
      have hend : offset = byteSize cs := by
        rw [h.offset_eq, h.chars_eq, hinside, List.append_nil, Nat.add_zero]
      simp [isAtChar, hend, hinside]
    | cons c rest =>
      have hlt : inside < c.utf8Size := by
        obtain rfl | ⟨d, hhead, hlt⟩ := h.inside_lt
        · exact c.utf8Size_pos
        · exact Option.some.inj hhead ▸ hlt
      have hlength : inside < (String.utf8EncodeChar c).length := by
        rwa [String.length_utf8EncodeChar]
      have hzero : offset = 0 → inside = 0 := by
        have hoffset := h.offset_eq
        omega
      rw [isAtChar, h.getElem?_bytesOf hlt, List.getElem?_eq_getElem hlength]
      simpa [UInt8.isUTF8FirstByte_getElem_utf8EncodeChar] using hzero
  · -- Beyond the end there is neither a byte nor a place.
    have hnone : (bytesOf cs)[offset]? = none :=
      List.getElem?_eq_none (by rw [length_bytesOf]; omega)
    have hplace : ¬ IsCharBoundary cs offset := fun h => hle h.le_byteSize
    simp only [isAtChar, hnone, length_bytesOf, hplace, iff_false, Bool.or_eq_true,
      decide_eq_true_eq]
    omega

/-! ## Cutting back -/

/-- Cuts an offset back byte by byte, until it is at a character. It would have to go below zero where
there is none. -/
def cutBack? (bytes : List UInt8) : (offset : Nat) → Option Nat
  | 0 => if isAtChar bytes 0 then some 0 else none
  | offset + 1 => if isAtChar bytes (offset + 1) then some (offset + 1) else cutBack? bytes offset

/-- **An offset is cut back to the last place between two characters.** It never has to go below
zero. -/
theorem exists_cutBack (cs : List Char) (offset : Nat) :
    ∃ length, cutBack? (bytesOf cs) offset = some length ∧
      IsGreatest {place | IsCharBoundary cs place ∧ place ≤ offset} length := by
  induction offset with
  | zero =>
    have hzero : isAtChar (bytesOf cs) 0 = true := isAtChar_iff.2 (isCharBoundary_zero cs)
    refine ⟨0, by rw [cutBack?, if_pos hzero], ⟨isCharBoundary_zero cs, Nat.le_refl 0⟩, ?_⟩
    exact fun place hplace => hplace.2
  | succ offset ih =>
    rw [cutBack?]
    by_cases hat : isAtChar (bytesOf cs) (offset + 1) = true
    · rw [if_pos hat]
      exact ⟨offset + 1, rfl, ⟨isAtChar_iff.1 hat, Nat.le_refl _⟩, fun place hplace => hplace.2⟩
    · obtain ⟨length, hcut, ⟨hplace, hle⟩, hgreatest⟩ := ih
      rw [if_neg hat]
      refine ⟨length, hcut, ⟨hplace, Nat.le_succ_of_le hle⟩, ?_⟩
      rintro other ⟨hother, hother_le⟩
      have hne : other ≠ offset + 1 := fun heq => hat (isAtChar_iff.2 (heq ▸ hother))
      exact hgreatest ⟨hother, by omega⟩

/-- Cutting back an offset inside of a character leads to the start of that character. -/
theorem Divides.cutBack_eq (h : Divides cs offset before behind inside) :
    cutBack? (bytesOf cs) offset = some (byteSize before) := by
  obtain ⟨length, hcut, hgreatest⟩ := exists_cutBack cs offset
  rw [hcut, hgreatest.unique h.isGreatest]

end GrammarLang.Text

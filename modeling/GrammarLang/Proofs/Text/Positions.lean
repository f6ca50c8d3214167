import GrammarLang.Proofs.Scan.Invariant
import Mathlib.Data.List.DropRight

/-! # Lines, columns and the order of positions

**`Source.position`** counts lines and columns on the way through a text. What it counts can be said
on the text alone: the line feeds in front of an offset, and the characters behind the last of them.

* **`Divides`** — how an offset divides a text, between two characters or inside of one;
  **`position_eq`** — the position of the offset by the text before it.
* **`Source.positionByLines?`** — the position looked up in a table of the starts of all lines, by
  binary search. **`positionByLines?_eq`** says that it always is the position.
* **`position_exact`** — all of this, and that positions are ordered as the places in the text are. -/

namespace GrammarLang.Text

open GrammarLang.Scan

/-! ## Bytes -/

/-- The bytes of a text. -/
def bytesOf (cs : List Char) : List UInt8 := cs.flatMap String.utf8EncodeChar

@[simp] theorem bytesOf_nil : bytesOf [] = [] := rfl

@[simp] theorem bytesOf_cons (c : Char) (cs : List Char) :
    bytesOf (c :: cs) = String.utf8EncodeChar c ++ bytesOf cs := rfl

@[simp] theorem bytesOf_append (left right : List Char) :
    bytesOf (left ++ right) = bytesOf left ++ bytesOf right := List.flatMap_append

@[simp] theorem length_bytesOf (cs : List Char) : (bytesOf cs).length = byteSize cs := by
  induction cs with
  | nil => rfl
  | cons c cs ih => rw [bytesOf_cons, List.length_append, String.length_utf8EncodeChar, ih, byteSize_cons]

/-- Line feeds are bytes of their own: no other character has such a byte. -/
theorem ten_notMem_utf8EncodeChar {c : Char} (hc : c ≠ '\n') : 10 ∉ String.utf8EncodeChar c := by
  have hcode : c.val.toNat ≠ 10 := fun h => hc (Char.toNat_inj.1 h)
  have hbyte {n : Nat} (hn : n % 256 ≠ 10) : (10 : UInt8) ≠ UInt8.ofNat n := by
    rw [ne_eq, ← UInt8.toNat_inj, UInt8.toNat_ofNat']
    exact hn.symm
  simp only [String.utf8EncodeChar]
  split
  · simpa only [List.mem_singleton] using hbyte (by omega)
  · -- The bytes of longer characters are 128 or more.
    split
    · simp only [List.mem_cons, List.not_mem_nil, or_false, not_or]
      exact ⟨hbyte (by omega), hbyte (by omega)⟩
    · split
      · simp only [List.mem_cons, List.not_mem_nil, or_false, not_or]
        exact ⟨hbyte (by omega), hbyte (by omega), hbyte (by omega)⟩
      · simp only [List.mem_cons, List.not_mem_nil, or_false, not_or]
        exact ⟨hbyte (by omega), hbyte (by omega), hbyte (by omega), hbyte (by omega)⟩

theorem count_ten_utf8EncodeChar (c : Char) :
    (String.utf8EncodeChar c).count 10 = if c = '\n' then 1 else 0 := by
  split
  · rename_i hc
    rw [hc]
    rfl
  · rename_i hc
    exact List.count_eq_zero.2 (ten_notMem_utf8EncodeChar hc)

/-- There are as many line feeds among the bytes of a text as among its characters. -/
theorem count_bytesOf (cs : List Char) : (bytesOf cs).count 10 = cs.count '\n' := by
  induction cs with
  | nil => rfl
  | cons c cs ih =>
    rw [bytesOf_cons, List.count_append, ih, count_ten_utf8EncodeChar, List.count_cons, Nat.add_comm]
    simp only [beq_iff_eq]

/-! ## Offsets -/

/-- A byte offset divides a text: `before` comes before it, and it is `inside` bytes into the first
character of `behind`, or right in front of that. -/
structure Divides (cs : List Char) (offset : Nat) (before behind : List Char) (inside : Nat) : Prop where
  /-- The two parts make up the text. -/
  chars_eq : cs = before ++ behind
  /-- The offset counts the bytes before it. -/
  offset_eq : offset = byteSize before + inside
  /-- The offset does not reach beyond a character. -/
  inside_lt : inside = 0 ∨ ∃ c ∈ behind.head?, inside < c.utf8Size

/-- Every offset divides a text that it is not beyond. -/
theorem exists_divides {cs : List Char} {offset : Nat} (h : offset ≤ byteSize cs) :
    ∃ before behind inside, Divides cs offset before behind inside := by
  induction cs generalizing offset with
  | nil => exact ⟨[], [], 0, rfl, Nat.le_zero.1 h, .inl rfl⟩
  | cons c cs ih =>
    rw [byteSize_cons] at h
    by_cases hinside : offset < c.utf8Size
    · exact ⟨[], c :: cs, offset, rfl, (Nat.zero_add offset).symm, .inr ⟨c, rfl, hinside⟩⟩
    · have hrest : offset - c.utf8Size ≤ byteSize cs := by omega
      obtain ⟨before, behind, inside, hdivides⟩ := ih hrest
      refine ⟨c :: before, behind, inside, by rw [hdivides.chars_eq]; rfl, ?_, hdivides.inside_lt⟩
      have hoffset := hdivides.offset_eq
      rw [byteSize_cons]
      omega

/-- An offset, or the end of a source if the offset is beyond, divides the text. -/
theorem Source.exists_divides (source : Source) (offset : Nat) :
    ∃ before behind inside, Divides source.chars (min offset source.size) before behind inside :=
  Text.exists_divides (by rw [← source.size_eq]; exact Nat.min_le_right _ _)

/-- An offset inside of a character is inside of one that has more bytes than a line feed. -/
theorem Divides.exists_cons {cs before behind : List Char} {offset inside : Nat}
    (h : Divides cs offset before behind inside) (hinside : inside ≠ 0) :
    ∃ c rest, behind = c :: rest ∧ inside < c.utf8Size ∧ c ≠ '\n' := by
  obtain ⟨c, hhead, hlt⟩ := h.inside_lt.resolve_left hinside
  obtain ⟨rest, hrest⟩ := List.head?_eq_some_iff.1 hhead
  refine ⟨c, rest, hrest, hlt, ?_⟩
  rintro rfl
  have hsize : '\n'.utf8Size = 1 := rfl
  omega

/-- The line feeds before an offset are those of the text before it. -/
theorem count_take_bytesOf {cs before behind : List Char} {offset inside : Nat}
    (h : Divides cs offset before behind inside) :
    ((bytesOf cs).take offset).count 10 = before.count '\n' := by
  rw [h.chars_eq, h.offset_eq, bytesOf_append, ← length_bytesOf before, List.take_length_add_append,
    List.count_append, count_bytesOf, Nat.add_eq_left]
  by_cases hzero : inside = 0
  · rw [hzero, List.take_zero, List.count_nil]
  · -- The bytes that are left are some of one character, which is no line feed.
    obtain ⟨c, rest, rfl, hlt, hc⟩ := h.exists_cons hzero
    rw [bytesOf_cons, List.take_append_of_le_length (by rw [String.length_utf8EncodeChar]; omega),
      List.count_eq_zero]
    intro hmem
    exact ten_notMem_utf8EncodeChar hc (List.mem_of_mem_take hmem)

/-! ## The line of an offset -/

/-- The characters of a text behind its last line feed. -/
def lastLine (cs : List Char) : List Char := cs.rtakeWhile (· ≠ '\n')

@[simp] theorem lastLine_nil : lastLine [] = [] := rfl

theorem lastLine_concat (cs : List Char) (c : Char) :
    lastLine (cs ++ [c]) = if c = '\n' then [] else lastLine cs ++ [c] := by
  rw [lastLine, List.rtakeWhile_concat]
  by_cases hc : c = '\n' <;> simp [hc, lastLine]

/-- What is known of a line after some text counts the line feeds, and then the rest of the text. -/
theorem foldl_step (cs : List Char) :
    cs.foldl Source.LineProgress.step ⟨1, 0, 0⟩ =
      ⟨1 + cs.count '\n', (lastLine cs).length, byteSize (lastLine cs)⟩ := by
  -- The last step tells: it starts a line anew, or makes the line that it is on longer.
  induction cs using List.reverseRecOn with
  | nil => rfl
  | append_singleton cs c ih =>
    rw [List.foldl_concat, ih, Source.LineProgress.step, lastLine_concat, List.count_append]
    by_cases hc : c = '\n'
    · simp [hc, Nat.add_assoc]
    · simp [hc]

/-- A text is passed up to an offset that divides it. -/
theorem locate_eq {cs before behind : List Char} {offset inside : Nat}
    (h : Divides cs offset before behind inside) (progress : Source.LineProgress) :
    Source.locate cs offset progress =
      ⟨(before.foldl Source.LineProgress.step progress).line,
        (if inside = 0 then (before.foldl Source.LineProgress.step progress).characters
          else (before.foldl Source.LineProgress.step progress).bytes + inside) + 1⟩ := by
  have hinside (hzero : inside ≠ 0) := h.exists_cons hzero
  obtain ⟨rfl, rfl, -⟩ := h
  induction before generalizing progress with
  | nil =>
    -- All characters before the offset are passed; it is at the next one, or inside of it.
    rw [List.nil_append, byteSize_nil, Nat.zero_add, List.foldl_nil]
    by_cases hzero : inside = 0
    · subst hzero
      cases behind <;> rfl
    · obtain ⟨c, rest, rfl, hlt, -⟩ := hinside hzero
      rw [Source.locate, if_neg hzero, if_neg hzero, if_neg (Nat.not_le.2 hlt)]
  | cons c before ih =>
    have hsize : 0 < c.utf8Size := c.utf8Size_pos
    rw [List.cons_append, byteSize_cons, Nat.add_assoc, Source.locate, if_neg (by omega),
      if_pos (by omega), Nat.add_sub_cancel_left, ih, List.foldl_cons]

/-- The end of a text stands for all offsets beyond it. -/
theorem locate_min (cs : List Char) (offset : Nat) (progress : Source.LineProgress) :
    Source.locate cs (min offset (byteSize cs)) progress = Source.locate cs offset progress := by
  induction cs generalizing offset progress with
  | nil => rfl
  | cons c cs ih =>
    have hsize : 0 < c.utf8Size := c.utf8Size_pos
    rw [byteSize_cons, Source.locate, Source.locate]
    by_cases hzero : offset = 0
    · simp [hzero]
    · by_cases hle : c.utf8Size ≤ offset
      · rw [if_neg (by omega), if_neg hzero, if_pos (by omega), if_pos hle,
          show min offset (c.utf8Size + byteSize cs) - c.utf8Size =
            min (offset - c.utf8Size) (byteSize cs) by omega, ih]
      · rw [if_neg (by omega), if_neg hzero, if_neg (by omega), if_neg hle, Nat.min_eq_left (by omega)]

variable {source : Source} {offset inside : Nat} {before behind : List Char}

/-- **The position of an offset**, or of the end if it is beyond: the line feeds before it, and the
characters behind the last of these. Inside of a character, bytes are counted for characters. -/
theorem position_eq (h : Divides source.chars (min offset source.size) before behind inside) :
    source.position offset =
      ⟨1 + before.count '\n', (if inside = 0 then (lastLine before).length
        else byteSize (lastLine before) + inside) + 1⟩ := by
  rw [Source.position, ← locate_min, ← source.size_eq, locate_eq h, foldl_step]

/-! ## The table of lines -/

/-- Where lines start behind line feeds, among some bytes of which the first has the given offset. -/
def lineStartsFrom (offset : Nat) : List UInt8 → List Nat
  | [] => []
  | b :: bs =>
    if b = 10 then (offset + 1) :: lineStartsFrom (offset + 1) bs
    else lineStartsFrom (offset + 1) bs

/-- The offsets at which the lines of a source start, in order. -/
def Source.lineStarts (source : Source) : Array Nat :=
  (0 :: lineStartsFrom 0 (bytesOf source.chars)).toArray

/-- How many entries of an array come before the first that a condition does not hold of, found by
halving the range between `low` and `high`. -/
def partitionPoint (holds : Nat → Bool) (entries : Array Nat) (low high : Nat) : Nat :=
  if low < high then
    if (entries[(low + high) / 2]?).any holds then
      partitionPoint holds entries ((low + high) / 2 + 1) high
    else partitionPoint holds entries low ((low + high) / 2)
  else low
termination_by high - low

/-- The position of an offset, by the table of lines. There is none if the table has no entry at or
before the offset. -/
def Source.positionByLines? (source : Source) (offset : Nat) : Option Position :=
  let place := min offset source.size
  match partitionPoint (· ≤ place) source.lineStarts 0 source.lineStarts.size with
  | 0 => none
  | line + 1 => do
    let start ← source.lineStarts[line]?
    if start ≤ place then
      match Text.slice? source.chars start place with
      | some text => some ⟨line + 1, text.length + 1⟩
      | none => some ⟨line + 1, place - start + 1⟩
    else none

theorem lineStartsFrom_append (offset : Nat) (left right : List UInt8) :
    lineStartsFrom offset (left ++ right) =
      lineStartsFrom offset left ++ lineStartsFrom (offset + left.length) right := by
  induction left generalizing offset with
  | nil => rfl
  | cons b left ih =>
    rw [List.cons_append, lineStartsFrom, lineStartsFrom, ih, List.length_cons,
      Nat.add_right_comm offset 1, Nat.add_assoc offset]
    split <;> rfl

/-- There is one start for each line feed. -/
theorem length_lineStartsFrom (offset : Nat) (bs : List UInt8) :
    (lineStartsFrom offset bs).length = bs.count 10 := by
  induction bs generalizing offset with
  | nil => rfl
  | cons b bs ih =>
    rw [lineStartsFrom, List.count_cons]
    split
    · rename_i hb
      simp [ih, hb]
    · rename_i hb
      simp [ih, hb]

/-- Lines start behind the bytes that end the ones before them. -/
theorem lineStartsFrom_bounds {offset start : Nat} {bs : List UInt8}
    (h : start ∈ lineStartsFrom offset bs) : offset < start ∧ start ≤ offset + bs.length := by
  induction bs generalizing offset with
  | nil => contradiction
  | cons b bs ih =>
    rw [lineStartsFrom] at h
    rw [List.length_cons]
    split at h
    · obtain rfl | hmem := List.mem_cons.1 h
      · omega
      · have hbounds := ih hmem
        omega
    · have hbounds := ih h
      omega

/-- Of the bytes of a character only a line feed starts a line. -/
theorem lineStartsFrom_char (offset : Nat) (c : Char) :
    lineStartsFrom offset (String.utf8EncodeChar c) = if c = '\n' then [offset + 1] else [] := by
  split
  · rename_i hc
    rw [hc]
    rfl
  · rename_i hc
    rw [← List.length_eq_zero_iff, length_lineStartsFrom, count_ten_utf8EncodeChar, if_neg hc]

/-- The last line that starts in a text starts in front of what follows the last line feed. -/
theorem getLast_lineStarts (cs : List Char) :
    (0 :: lineStartsFrom 0 (bytesOf cs)).getLast (by simp) + byteSize (lastLine cs) =
      byteSize cs := by
  -- A line feed at the end starts a line there; any other character leaves the starts as they are.
  induction cs using List.reverseRecOn with
  | nil => rfl
  | append_singleton cs c ih =>
    have hstarts : lineStartsFrom 0 (bytesOf (cs ++ [c])) =
        lineStartsFrom 0 (bytesOf cs) ++ if c = '\n' then [byteSize cs + 1] else [] := by
      rw [bytesOf_append, lineStartsFrom_append, length_bytesOf, Nat.zero_add, bytesOf_cons,
        bytesOf_nil, List.append_nil, lineStartsFrom_char]
    simp only [hstarts, lastLine_concat]
    by_cases hc : c = '\n'
    · simp [hc, show '\n'.utf8Size = 1 from rfl]
    · simp [hc, ← ih, Nat.add_assoc]

/-- The search finds where the condition ceases to hold. -/
theorem partitionPoint_eq {holds : Nat → Bool} {front back : List Nat}
    (hfront : ∀ entry ∈ front, holds entry = true) (hback : ∀ entry ∈ back, holds entry = false)
    {low high : Nat} (hlow : low ≤ front.length) (hhigh : front.length ≤ high)
    (hsize : high ≤ (front ++ back).length) :
    partitionPoint holds (front ++ back).toArray low high = front.length := by
  -- Each half that the search goes on in still has the border between the two parts in it.
  fun_induction partitionPoint holds (front ++ back).toArray low high with
  | case1 low high hlt hholds ih =>
    refine ih (Nat.succ_le_of_lt ?_) hhigh hsize
    -- An entry that the condition holds of is one of the first part.
    by_contra hge
    rw [List.getElem?_toArray, List.getElem?_append_right (Nat.not_lt.1 hge)] at hholds
    obtain ⟨entry, hentry, hany⟩ := (Option.any_eq_true _ _).1 hholds
    rw [hback entry (List.mem_of_getElem? hentry)] at hany
    contradiction
  | case2 low high hlt hholds ih =>
    refine ih hlow ?_ (by omega)
    by_contra hlt'
    rw [List.getElem?_toArray, List.getElem?_append_left (Nat.not_le.1 hlt'),
      List.getElem?_eq_getElem (Nat.not_le.1 hlt'), Option.any_some,
      hfront _ (List.getElem_mem _)] at hholds
    exact hholds rfl
  | case3 low high hge => omega

/-- No text is cut inside of a character. -/
theorem splitAt?_inside {c : Char} (before behind : List Char) (hpos : 0 < inside)
    (hlt : inside < c.utf8Size) :
    splitAt? (before ++ c :: behind) (byteSize before + inside) = none := by
  induction before with
  | nil =>
    rw [List.nil_append, byteSize_nil, Nat.zero_add, splitAt?, if_neg (by omega), if_neg (by omega)]
  | cons d before ih =>
    have hsize : 0 < d.utf8Size := d.utf8Size_pos
    rw [List.cons_append, byteSize_cons, Nat.add_assoc, splitAt?, if_neg (by omega),
      if_pos (by omega), Nat.add_sub_cancel_left, ih]
    rfl

/-- The table starts with the lines that start in the first part of a text. -/
theorem lineStarts_eq (h : source.chars = before ++ behind) :
    source.lineStarts = ((0 :: lineStartsFrom 0 (bytesOf before)) ++
      lineStartsFrom (byteSize before) (bytesOf behind)).toArray := by
  rw [Source.lineStarts, h, bytesOf_append, lineStartsFrom_append, length_bytesOf, Nat.zero_add,
    List.cons_append]

theorem length_lineStarts (cs : List Char) :
    (lineStartsFrom 0 (bytesOf cs)).length = cs.count '\n' := by
  rw [length_lineStartsFrom, count_bytesOf]

/-- The last of these is the start of what follows the last line feed. -/
theorem exists_lineStart (h : source.chars = before ++ behind) :
    ∃ front, before = front ++ lastLine before ∧
      source.lineStarts[before.count '\n']? = some (byteSize front) := by
  obtain ⟨front, hfront⟩ : lastLine before <:+ before := List.rtakeWhile_suffix _ before
  refine ⟨front, hfront.symm, ?_⟩
  have hlast := getLast_lineStarts before
  have hsize : byteSize before = byteSize front + byteSize (lastLine before) := by
    rw [← byteSize_append, hfront]
  rw [hsize, Nat.add_right_cancel_iff, List.getLast_eq_getElem] at hlast
  rw [lineStarts_eq h, ← length_lineStarts, List.getElem?_toArray,
    List.getElem?_append_left (by simp), List.getElem?_eq_getElem (by simp), ← hlast]
  rfl

/-- The entries of the table at or before an offset are these. -/
theorem partitionPoint_lineStarts (h : Divides source.chars offset before behind inside) :
    partitionPoint (· ≤ offset) source.lineStarts 0 source.lineStarts.size =
      before.count '\n' + 1 := by
  have hoffset := h.offset_eq
  rw [lineStarts_eq h.chars_eq, ← length_lineStarts, ← List.length_cons (a := 0)]
  refine partitionPoint_eq (fun start hstart => ?_) (fun start hstart => ?_) (Nat.zero_le _)
    (by simp) (by simp)
  · obtain rfl | hmem := List.mem_cons.1 hstart
    · simp
    · have hbounds := lineStartsFrom_bounds hmem
      rw [length_bytesOf] at hbounds
      exact decide_eq_true (by omega)
  · refine decide_eq_false (Nat.not_le.2 ?_)
    by_cases hzero : inside = 0
    · have hbounds := lineStartsFrom_bounds hstart
      omega
    · -- The character that the offset is inside of starts no line.
      obtain ⟨c, rest, rfl, hlt, hc⟩ := h.exists_cons hzero
      rw [bytesOf_cons, lineStartsFrom_append, lineStartsFrom_char, if_neg hc, List.nil_append,
        String.length_utf8EncodeChar] at hstart
      have hbounds := lineStartsFrom_bounds hstart
      omega

/-- An offset counts the bytes in front of its line, and those of the line up to it. -/
theorem Divides.offset_eq_front {cs front : List Char} (h : Divides cs offset before behind inside)
    (hfront : before = front ++ lastLine before) :
    offset = byteSize front + (byteSize (lastLine before) + inside) := by
  rw [← Nat.add_assoc, ← byteSize_append, ← hfront, h.offset_eq]

/-- The text of a line up to an offset, which there is if the offset is between characters. -/
theorem slice?_lastLine {front : List Char} (h : Divides source.chars offset before behind inside)
    (hfront : before = front ++ lastLine before) :
    Text.slice? source.chars (byteSize front) offset =
      if inside = 0 then some (lastLine before) else none := by
  have hoffset := h.offset_eq_front hfront
  have hchars : source.chars = front ++ (lastLine before ++ behind) := by
    rw [← List.append_assoc, ← hfront, h.chars_eq]
  rw [hoffset, hchars]
  by_cases hzero : inside = 0
  · rw [if_pos hzero, hzero, Nat.add_zero, slice?_append]
  · obtain ⟨c, rest, rfl, hlt, -⟩ := h.exists_cons hzero
    rw [if_neg hzero, Text.slice?, if_pos (Nat.le_add_right _ _), splitAt?_byteSize]
    simp [splitAt?_inside _ _ (Nat.pos_of_ne_zero hzero) hlt]

/-- **The table of lines gives the position of every offset.** -/
theorem positionByLines?_eq (source : Source) (offset : Nat) :
    source.positionByLines? offset = some (source.position offset) := by
  obtain ⟨before, behind, inside, hdivides⟩ := source.exists_divides offset
  obtain ⟨front, hfront, hstart⟩ := exists_lineStart hdivides.chars_eq
  have hplace := hdivides.offset_eq_front hfront
  rw [position_eq hdivides, Nat.add_comm 1]
  simp only [Source.positionByLines?, partitionPoint_lineStarts hdivides, hstart,
    Option.bind_eq_bind, Option.bind_some, slice?_lastLine hdivides hfront]
  rw [if_pos (by omega)]
  -- Inside of a character there is no text to count in, and both sides count bytes.
  by_cases hzero : inside = 0
  · simp only [if_pos hzero]
  · simp only [if_neg hzero, hplace, Nat.add_sub_cancel_left]

/-! ## The order of positions -/

/-- A position comes before another one: on an earlier line, or earlier on the same line. -/
def Position.Before (left right : Position) : Prop :=
  left.line < right.line ∨ left.line = right.line ∧ left.column < right.column

theorem lastLine_append {front back : List Char} (h : '\n' ∉ back) :
    lastLine (front ++ back) = lastLine front ++ back := by
  induction back using List.reverseRecOn with
  | nil => simp
  | append_singleton back c ih =>
    rw [List.mem_append, not_or, List.mem_singleton] at h
    rw [← List.append_assoc, lastLine_concat, if_neg (Ne.symm h.2), ih h.1, List.append_assoc]

/-- The position between two characters. -/
theorem position_byteSize (h : source.chars = before ++ behind) :
    source.position (byteSize before) = ⟨1 + before.count '\n', (lastLine before).length + 1⟩ := by
  have hsize : byteSize before ≤ source.size := by
    rw [source.size_eq, h, byteSize_append]
    exact Nat.le_add_right _ _
  have hdivides : Divides source.chars (min (byteSize before) source.size) before behind 0 :=
    ⟨h, Nat.min_eq_left hsize, .inl rfl⟩
  rw [position_eq hdivides, if_pos rfl]

/-- **Positions are ordered as the places in a text are.** -/
theorem position_before {left right : Nat} (hleft : IsBoundary source left)
    (hright : IsBoundary source right) (hlt : left < right) :
    (source.position left).Before (source.position right) := by
  obtain ⟨front, back, hchars, rfl⟩ := hleft
  obtain ⟨front', back', hchars', rfl⟩ := hright
  -- The text up to the second place is the text up to the first one and some more.
  obtain ⟨more, rfl, hmore⟩ : ∃ more, front' = front ++ more ∧ more ≠ [] := by
    obtain ⟨more, rfl, -⟩ | ⟨more, rfl, -⟩ := List.append_eq_append_iff.1 (hchars.symm.trans hchars')
    · refine ⟨more, rfl, ?_⟩
      rintro rfl
      rw [List.append_nil] at hlt
      exact Nat.lt_irrefl _ hlt
    · rw [byteSize_append] at hlt
      omega
  rw [position_byteSize hchars, position_byteSize hchars', Position.Before, List.count_append]
  -- Either a line ends between the two places, or they are on the same line.
  by_cases hfeed : '\n' ∈ more
  · have hcount := List.count_pos_iff.2 hfeed
    exact .inl (by show 1 + _ < 1 + _; omega)
  · have hlength := List.length_pos_iff.2 hmore
    rw [List.count_eq_zero.2 hfeed, lastLine_append hfeed, List.length_append]
    exact .inr ⟨rfl, by show _ + 1 < _ + 1; omega⟩

theorem Position.not_before_self (position : Position) : ¬ position.Before position := by
  rintro (hline | ⟨-, hcolumn⟩)
  · exact Nat.lt_irrefl _ hline
  · exact Nat.lt_irrefl _ hcolumn

/-- **Positions are exact, and in the order of the text.** For every offset, or the end if the offset
is beyond it, the table of lines gives the position; the line counts the line feeds before the
offset, and the column the characters behind the last of them, if the offset is between characters.
Of two places between characters, the first one has the earlier position, so there is no position
that two of them share. -/
theorem position_exact (source : Source) :
    (∀ offset,
      source.positionByLines? offset = some (source.position offset) ∧
      (source.position offset).line =
        1 + ((bytesOf source.chars).take (min offset source.size)).count 10 ∧
      ∀ before behind, source.chars = before ++ behind → min offset source.size = byteSize before →
        (source.position offset).column = 1 + (lastLine before).length) ∧
    (∀ left right, IsBoundary source left → IsBoundary source right → left < right →
      (source.position left).Before (source.position right)) ∧
    ∀ left right, IsBoundary source left → IsBoundary source right →
      source.position left = source.position right → left = right := by
  have hbefore (left right : Nat) (hleft : IsBoundary source left) (hright : IsBoundary source right)
      (hlt : left < right) := position_before hleft hright hlt
  refine ⟨fun offset => ⟨positionByLines?_eq source offset, ?_, fun before behind hchars hplace => ?_⟩,
    hbefore, fun left right hleft hright heq => ?_⟩
  · obtain ⟨before, behind, inside, hdivides⟩ := source.exists_divides offset
    rw [position_eq hdivides, count_take_bytesOf hdivides]
  · rw [position_eq ⟨hchars, hplace, .inl rfl⟩, if_pos rfl]
    exact Nat.add_comm _ _
  · obtain hlt | rfl | hgt := Nat.lt_trichotomy left right
    · exact absurd (heq ▸ hbefore left right hleft hright hlt) (Position.not_before_self _)
    · rfl
    · exact absurd (heq ▸ hbefore right left hright hleft hgt) (Position.not_before_self _)

/-- An offset on a line feed, one on an empty line, one inside of a character and one beyond the
end. -/
example : [2, 3, 5, 90].map (Source.ofString "é\n\nxé").position = [⟨1, 2⟩, ⟨2, 1⟩, ⟨3, 2⟩, ⟨3, 3⟩] := by
  decide

end GrammarLang.Text

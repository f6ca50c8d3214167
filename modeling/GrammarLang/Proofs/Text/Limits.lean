import GrammarLang.Proofs.Text.Boundaries

/-! # Positions in 32 bits

Offsets, lines and columns are meant to fit in 32 bits. Offsets do, in a source that is not larger
than the largest of these numbers. Lines and columns start at one, so that a source of just that size
may have one more of them than fit.

* **`lineStarts32?_eq`** — the table of lines fits.
* **`Source.position32?`** — the position worked out in 32 bits, step by step; there is none where a
  step runs over. **`position32?_eq`** — it is the position, if that fits.
* **`AtLimit`** — the end of a source of the largest size that consists of line feeds, or is one line
  of one-byte characters. **`position32?_eq_none_iff`** — a position runs over there, and nowhere
  else. -/

namespace GrammarLang.Text

variable {source : Source} {before behind : List Char} {inside : Nat} {offset : UInt32}

/-! ## Counting in 32 bits -/

/-- One more, unless the number is the largest one. -/
def next? (n : UInt32) : Option UInt32 := if n.toNat + 1 < UInt32.size then some (n + 1) else none

/-- The difference of two numbers, unless it is below zero. -/
def minus? (n m : UInt32) : Option UInt32 := if m ≤ n then some (n - m) else none

theorem toNat_ofNat {n : Nat} (h : n < UInt32.size) : (UInt32.ofNat n).toNat = n := by
  rw [UInt32.toNat_ofNat']
  exact Nat.mod_eq_of_lt h

/-- Counting on is as with numbers of any size, as far as there is room. -/
theorem next?_ofNat {n : Nat} (h : n < UInt32.size) :
    next? (.ofNat n) = if n + 1 < UInt32.size then some (.ofNat (n + 1)) else none := by
  rw [next?, toNat_ofNat h, UInt32.ofNat_add]
  rfl

theorem minus?_eq {n m : UInt32} (h : m.toNat ≤ n.toNat) :
    ∃ difference, minus? n m = some difference ∧ difference.toNat = n.toNat - m.toNat := by
  have hle : m ≤ n := UInt32.le_iff_toNat_le.2 h
  exact ⟨n - m, by rw [minus?, if_pos hle], UInt32.toNat_sub_of_le n m hle⟩

/-! ## The table of lines -/

/-- Where lines start behind line feeds, in 32 bits, among some bytes of which the first has the given
offset. There is no answer where an offset runs over. -/
def lineStartsFrom32? (offset : Nat) : List UInt8 → Option (List UInt32)
  | [] => some []
  | b :: bs =>
    if b = 10 then do
      let start ← next? (.ofNat offset)
      let starts ← lineStartsFrom32? (offset + 1) bs
      return start :: starts
    else lineStartsFrom32? (offset + 1) bs

/-- The offsets at which the lines of a source start, in 32 bits. -/
def Source.lineStarts32? (source : Source) : Option (List UInt32) :=
  (lineStartsFrom32? 0 (bytesOf source.chars)).map (0 :: ·)

/-- No start of a line runs over, as there is none behind the end of the text. -/
theorem lineStartsFrom32?_eq {offset : Nat} {bs : List UInt8} (h : offset + bs.length < UInt32.size) :
    ∃ starts, lineStartsFrom32? offset bs = some starts ∧
      starts.map UInt32.toNat = lineStartsFrom offset bs := by
  induction bs generalizing offset with
  | nil => exact ⟨[], rfl, rfl⟩
  | cons b bs ih =>
    rw [List.length_cons] at h
    obtain ⟨starts, hstarts, heq⟩ := ih (by omega : offset + 1 + bs.length < UInt32.size)
    have hroom : offset + 1 < UInt32.size := by omega
    rw [lineStartsFrom32?, lineStartsFrom, next?_ofNat (by omega), if_pos hroom, hstarts]
    split
    · exact ⟨.ofNat (offset + 1) :: starts, rfl, by rw [List.map_cons, toNat_ofNat hroom, heq]⟩
    · exact ⟨starts, rfl, heq⟩

/-- **The table of lines fits in 32 bits.** -/
theorem lineStarts32?_eq (h : source.size < UInt32.size) :
    ∃ starts, source.lineStarts32? = some starts ∧
      (starts.map UInt32.toNat).toArray = source.lineStarts := by
  rw [source.size_eq, ← length_bytesOf] at h
  obtain ⟨starts, hstarts, heq⟩ :=
    lineStartsFrom32?_eq (by omega : 0 + (bytesOf source.chars).length < UInt32.size)
  refine ⟨0 :: starts, by rw [Source.lineStarts32?, hstarts]; rfl, ?_⟩
  rw [List.map_cons, heq]
  rfl

/-! ## Positions -/

/-- A line and a column in 32 bits. -/
structure Position32 where
  /-- Number of the line. -/
  line : UInt32
  /-- Number of the character within its line. -/
  column : UInt32
  deriving DecidableEq, Repr

/-- A position in 32 bits, if it fits. -/
def Position.fit? (position : Position) : Option Position32 :=
  if position.line < UInt32.size ∧ position.column < UInt32.size then
    some ⟨.ofNat position.line, .ofNat position.column⟩
  else none

/-- The position of an offset, worked out in 32 bits by the table of lines. There is none where a
number runs over, or where the table has no entry to go by. -/
def Source.position32? (source : Source) (offset : UInt32) : Option Position32 := do
  let size := UInt32.ofNat source.size
  let place := if offset ≤ size then offset else size
  let starts ← source.lineStarts32?
  match partitionPoint (· ≤ place.toNat) (starts.map UInt32.toNat).toArray 0 starts.length with
  | 0 => none
  | line + 1 =>
    let start ← starts[line]?
    let bytes ← minus? place start
    let characters :=
      match Text.slice? source.chars start.toNat place.toNat with
      | some text => .ofNat text.length
      | none => bytes
    return ⟨← next? (.ofNat line), ← next? characters⟩

/-- Two counts that fit, each counted on by one, are a position that fits. -/
theorem next?_both {line column : Nat} (hline : line < UInt32.size) (hcolumn : column < UInt32.size) :
    (do return ⟨← next? (.ofNat line), ← next? (.ofNat column)⟩ : Option Position32) =
      Position.fit? ⟨line + 1, column + 1⟩ := by
  rw [next?_ofNat hline, next?_ofNat hcolumn, Position.fit?]
  by_cases hline' : line + 1 < UInt32.size
  · by_cases hcolumn' : column + 1 < UInt32.size
    · simp [hline', hcolumn']
    · simp [hline', hcolumn']
  · simp [hline']

theorem newline_notMem_lastLine (cs : List Char) : '\n' ∉ lastLine cs := by
  intro hmem
  have hne := List.mem_rtakeWhile_imp hmem
  simp at hne

/-- The line feeds before an offset and the bytes of the line that it is on are no more than the bytes
before it. -/
theorem Divides.counts_le {place : Nat} (h : Divides source.chars place before behind inside) :
    before.count '\n' + (byteSize (lastLine before) + inside) ≤ place := by
  obtain ⟨front, hfront, -⟩ := exists_lineStart h.chars_eq
  -- All line feeds are in front of the line that the offset is on.
  have hcount : before.count '\n' = front.count '\n' := by
    conv_lhs => rw [hfront, List.count_append, List.count_eq_zero.2 (newline_notMem_lastLine before)]
    exact Nat.add_zero _
  have hfeeds : front.count '\n' ≤ byteSize front :=
    List.count_le_length.trans (length_le_byteSize front)
  have hplace := h.offset_eq_front hfront
  omega

/-- **The position in 32 bits is the position, if that fits.** -/
theorem position32?_eq (h : source.size < UInt32.size) (offset : UInt32) :
    source.position32? offset = (source.position offset.toNat).fit? := by
  obtain ⟨before, behind, inside, hdivides⟩ := source.exists_divides offset.toNat
  obtain ⟨front, hfront, hstart⟩ := exists_lineStart hdivides.chars_eq
  obtain ⟨starts, hstarts, htable⟩ := lineStarts32?_eq h
  have hcounts := hdivides.counts_le
  -- The place, the start of its line and the bytes between the two are the same numbers in 32 bits.
  have hplace : (if offset ≤ .ofNat source.size then offset else .ofNat source.size).toNat =
      min offset.toNat source.size := by
    simp only [UInt32.le_iff_toNat_le, toNat_ofNat h]
    split
    · omega
    · rw [toNat_ofNat h]
      omega
  have hlength : starts.length = source.lineStarts.size := by rw [← htable]; simp
  obtain ⟨start, hstart32, hstartNat⟩ : ∃ start, starts[before.count '\n']? = some start ∧
      start.toNat = byteSize front := by
    rw [← htable, List.getElem?_toArray, List.getElem?_map] at hstart
    exact Option.map_eq_some_iff.1 hstart
  have hoffset := hdivides.offset_eq_front hfront
  obtain ⟨bytes, hbytes, hbytesNat⟩ := minus?_eq (m := start)
    (n := if offset ≤ .ofNat source.size then offset else .ofNat source.size) (by omega)
  rw [position_eq hdivides, Nat.add_comm 1, Source.position32?]
  simp only [hstarts, Option.bind_eq_bind, Option.bind_some, hplace, htable, hlength,
    partitionPoint_lineStarts hdivides, hstart32, hstartNat, slice?_lastLine hdivides hfront, hbytes]
  by_cases hzero : inside = 0
  · have hlen := length_le_byteSize (lastLine before)
    simp only [if_pos hzero]
    exact next?_both (by omega) (by omega)
  · -- Inside of a character the bytes of the line are counted, by the difference of offsets.
    have hdifference : bytes = .ofNat (byteSize (lastLine before) + inside) := by
      rw [← UInt32.toNat_inj, toNat_ofNat (by omega), hbytesNat, hplace, hstartNat, hoffset]
      omega
    simp only [if_neg hzero, hdifference]
    exact next?_both (by omega) (by omega)

/-! ## The limit -/

/-- The end of a source of the largest size that consists of line feeds only, or is one line of
one-byte characters. -/
structure AtLimit (source : Source) (offset : Nat) : Prop where
  /-- No larger source has offsets of 32 bits. -/
  size_eq : source.size + 1 = UInt32.size
  /-- The offset is the end of the source, or stands for it. -/
  size_le : source.size ≤ offset
  /-- Each byte counts for a line, or each for a column. -/
  chars : (∀ c ∈ source.chars, c = '\n') ∨ ∀ c ∈ source.chars, c ≠ '\n' ∧ c.utf8Size = 1

/-- A text has no more bytes than characters just if these are of one byte each. -/
theorem byteSize_le_length_iff {cs : List Char} :
    byteSize cs ≤ cs.length ↔ ∀ c ∈ cs, c.utf8Size = 1 := by
  induction cs with
  | nil => simp
  | cons c cs ih =>
    have hsize : 0 < c.utf8Size := c.utf8Size_pos
    have hlength := length_le_byteSize cs
    rw [byteSize_cons, List.length_cons, List.forall_mem_cons, ← ih]
    omega

/-- A text has no more bytes than line feeds just if there is nothing else in it. -/
theorem byteSize_le_count_iff {cs : List Char} :
    byteSize cs ≤ cs.count '\n' ↔ ∀ c ∈ cs, c = '\n' := by
  have hcount : cs.count '\n' ≤ cs.length := List.count_le_length
  have hlength := length_le_byteSize cs
  constructor
  · intro hle c hmem
    exact (List.count_eq_length.1 (by omega : cs.count '\n' = cs.length) c hmem).symm
  · intro hfeeds
    rw [List.count_eq_length.2 fun c hmem => (hfeeds c hmem).symm, byteSize_le_length_iff]
    intro c hmem
    rw [hfeeds c hmem]
    rfl

/-- A text has no more bytes than its last line has characters just if it is one line of one-byte
characters. -/
theorem byteSize_le_lastLine_iff {cs : List Char} :
    byteSize cs ≤ (lastLine cs).length ↔ ∀ c ∈ cs, c ≠ '\n' ∧ c.utf8Size = 1 := by
  constructor
  · intro hle
    -- A last line with as many characters as the text has bytes leaves nothing in front of it.
    have hsuffix : lastLine cs <:+ cs := List.rtakeWhile_suffix _ cs
    have hline : lastLine cs = cs :=
      hsuffix.eq_of_length_le ((length_le_byteSize cs).trans hle)
    rw [hline, byteSize_le_length_iff] at hle
    refine fun c hmem => ⟨?_, hle c hmem⟩
    rintro rfl
    exact newline_notMem_lastLine cs (hline.symm ▸ hmem)
  · intro hchars
    have hline : lastLine cs = cs :=
      @lastLine_append [] cs fun hmem => (hchars _ hmem).1 rfl
    rw [hline, byteSize_le_length_iff]
    exact fun c hmem => (hchars c hmem).2

/-- An offset at the end of a text has the whole text before it. -/
theorem Divides.at_end {cs : List Char} (h : Divides cs (byteSize cs) before behind inside) :
    before = cs ∧ inside = 0 := by
  have hplace := h.offset_eq
  obtain ⟨rfl, -, hinside⟩ := h
  rw [byteSize_append, Nat.add_left_cancel_iff] at hplace
  cases behind with
  | nil => exact ⟨(List.append_nil before).symm, hplace.symm⟩
  | cons c rest =>
    have hsize : 0 < c.utf8Size := c.utf8Size_pos
    rw [byteSize_cons] at hplace
    obtain hzero | ⟨d, hhead, hlt⟩ := hinside
    · omega
    · obtain rfl : c = d := Option.some.inj hhead
      omega

theorem Position.fit?_eq_none_iff {position : Position} :
    position.fit? = none ↔ UInt32.size ≤ position.line ∨ UInt32.size ≤ position.column := by
  rw [Position.fit?, ite_eq_right_iff]
  simp only [reduceCtorEq, imp_false, not_and_or, Nat.not_lt]

/-- **Where positions run over.** There is no position in 32 bits just at the end of a source of the
largest size that consists of line feeds, or is one line of one-byte characters. -/
theorem position32?_eq_none_iff (h : source.size < UInt32.size) :
    source.position32? offset = none ↔ AtLimit source offset.toNat := by
  have hfeeds := @byteSize_le_count_iff source.chars
  have hline := @byteSize_le_lastLine_iff source.chars
  rw [← source.size_eq] at hfeeds hline
  rw [position32?_eq h, Position.fit?_eq_none_iff]
  constructor
  · intro hover
    obtain ⟨before, behind, inside, hdivides⟩ := source.exists_divides offset.toNat
    have hcounts := hdivides.counts_le
    have hlength := length_le_byteSize (lastLine before)
    rw [position_eq hdivides] at hover
    -- A count of so many needs all bytes, so that the place is the end.
    have hend : min offset.toNat source.size = source.size ∧ source.size + 1 = UInt32.size := by
      dsimp only at hover
      split at hover <;> omega
    rw [hend.1, source.size_eq] at hdivides
    obtain ⟨rfl, rfl⟩ := hdivides.at_end
    refine ⟨hend.2, by omega, ?_⟩
    rw [if_pos rfl] at hover
    dsimp only at hover
    rw [← hfeeds, ← hline]
    omega
  · rintro ⟨hsize, hle, hchars⟩
    have hdivides : Divides source.chars (min offset.toNat source.size) source.chars [] 0 :=
      ⟨(List.append_nil _).symm, by rw [Nat.min_eq_right hle, source.size_eq]; rfl, .inl rfl⟩
    rw [position_eq hdivides, if_pos rfl]
    rw [← hfeeds, ← hline] at hchars
    dsimp only
    omega

/-- A source that is smaller than the largest ones has all its positions. -/
theorem exists_position32 (h : source.size + 1 < UInt32.size) (offset : UInt32) :
    ∃ position, source.position32? offset = some position ∧
      (source.position offset.toNat).fit? = some position := by
  have hroom : source.size < UInt32.size := Nat.lt_of_succ_lt h
  obtain ⟨position, hposition⟩ : ∃ position, source.position32? offset = some position := by
    rw [← Option.ne_none_iff_exists', ne_eq, position32?_eq_none_iff hroom]
    rintro ⟨hsize, -, -⟩
    omega
  exact ⟨position, hposition, by rw [← position32?_eq hroom, hposition]⟩

/-- The source with some characters. -/
def Source.ofChars (cs : List Char) : Source := ⟨cs, byteSize cs, rfl⟩

theorem byteSize_replicate (n : Nat) (c : Char) : byteSize (.replicate n c) = n * c.utf8Size := by
  induction n with
  | zero => rw [List.replicate_zero, byteSize_nil, Nat.zero_mul]
  | succ n ih => rw [List.replicate_succ, byteSize_cons, ih, Nat.succ_mul, Nat.add_comm]

/-- A one-byte character that makes up a source of the largest size runs over at the end: a line feed
with the lines, any other one with the columns. -/
theorem atLimit_replicate {n : Nat} {c : Char} (hn : n + 1 = UInt32.size) (hc : c.utf8Size = 1) :
    AtLimit (.ofChars (.replicate n c)) n := by
  have hsize : (Source.ofChars (.replicate n c)).size = n := by
    show byteSize (.replicate n c) = n
    rw [byteSize_replicate, hc, Nat.mul_one]
  refine ⟨by rw [hsize, hn], hsize.le, ?_⟩
  by_cases hfeed : c = '\n'
  · exact .inl fun d hmem => (List.eq_of_mem_replicate hmem).trans hfeed
  · exact .inr fun d hmem => List.eq_of_mem_replicate hmem ▸ ⟨hfeed, hc⟩

/-- **Not every source whose offsets fit has positions that fit.** -/
theorem not_forall_position32 :
    ¬ ∀ (source : Source) (offset : UInt32), source.size < UInt32.size →
      (source.position32? offset).isSome := by
  intro hall
  -- The size stays a variable, as a text of so many characters is not to be written out.
  obtain ⟨n, hn⟩ : ∃ n, n + 1 = UInt32.size := ⟨UInt32.size - 1, rfl⟩
  have hlimit : AtLimit (.ofChars (.replicate n '\n')) n := atLimit_replicate hn rfl
  have hsize : (Source.ofChars (.replicate n '\n')).size < UInt32.size := by
    have hlast := hlimit.size_eq
    omega
  have hoffset : (UInt32.ofNat n).toNat = n := toNat_ofNat (by omega)
  have hsome := hall _ (.ofNat n) hsize
  rw [(position32?_eq_none_iff hsize).2 (hoffset.symm ▸ hlimit)] at hsome
  contradiction

end GrammarLang.Text

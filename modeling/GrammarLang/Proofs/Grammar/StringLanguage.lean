import GrammarLang.Grammar.Literal
import Mathlib.Algebra.Group.Nat.Defs

/-! # The language of string literals

A string literal is a quote, then pieces one after another, then the same quote again. A **`Piece`**
is a character, or a backslash and an **`Escape`** behind it. A **`LiteralReading`** of a text divides
it so, and its **`value`** puts together the characters that the pieces stand for.

* **`decodeString_eq_ok_iff`** — the decoder accepts the texts that have a reading, and gives its value.
* **`LiteralReading.instSubsingleton`** — no text has two of them.
* **`isPossible_of_decodeString`** — two of the failures never occur.

Together these are `stringValue_language`. -/

namespace GrammarLang.Grammar

open GrammarLang.Scan GrammarLang.Text

/-! ## Codes -/

/-- Some hexadecimal digits are the code of a character. -/
structure IsCode (digits : List Char) (c : Char) : Prop where
  /-- They are digits. -/
  isHexDigit : ∀ d ∈ digits, isHexDigit d = true
  /-- Their number is the code. -/
  code_eq : c.toNat = numberOf 16 digits

theorem charOfCode?_eq_some_iff {code : Nat} {c : Char} :
    charOfCode? code = some c ↔ c.toNat = code := by
  rw [charOfCode?]
  constructor
  · intro h
    by_cases hvalid : code.isValidChar
    · rw [dif_pos hvalid] at h
      rw [← Option.some.inj h]
      rfl
    · rw [dif_neg hvalid] at h
      contradiction
  · rintro rfl
    have hvalid : c.toNat.isValidChar := c.valid
    rw [dif_pos hvalid]
    rfl

/-- The first hexadecimal digits of a text, at most `most` of them. -/
def leadingDigits (most : Nat) (text : List Char) : List Char :=
  (text.take most).takeWhile isHexDigit

theorem hexValue?_lt {c : Char} {digit : Nat} (h : hexValue? c = some digit) : digit < 16 := by
  simp only [hexValue?, Char.le_def, UInt32.le_iff_toNat_le] at h
  split at h
  · cases h
    have hc : c.val.toNat ≤ 57 := by simp_all
    show c.val.toNat - 48 < 16
    omega
  · split at h
    · cases h
      have hc : c.val.toNat ≤ 102 := by simp_all
      show c.val.toNat - 97 + 10 < 16
      omega
    · split at h
      · cases h
        have hc : c.val.toNat ≤ 70 := by simp_all
        show c.val.toNat - 65 + 10 < 16
        omega
      · contradiction

/-- **Digits are read as far as they go**, and their number is the code, as long as so many digits
cannot make too large a number. -/
theorem leadingCode_eq {value most : Nat} (hbound : (value + 1) * 16 ^ most ≤ UInt32.size)
    (text : List Char) :
    leadingCode value most text =
      .ok ((leadingDigits most text).foldl (fun value d => value * 16 + (hexValue? d).getD 0) value,
        (leadingDigits most text).length, text.drop (leadingDigits most text).length) := by
  induction most generalizing value text with
  | zero => simp [leadingCode, leadingDigits]
  | succ most ih =>
    cases text with
    | nil => rfl
    | cons c cs =>
      cases hdigit : hexValue? c with
      | none => simp [leadingCode, leadingDigits, hdigit, isHexDigit]
      | some digit =>
        have hlt := hexValue?_lt hdigit
        -- One digit fewer is to come, and the number so far has grown by one.
        have hfits : (value * 16 + digit + 1) * 16 ^ most ≤ UInt32.size := by
          calc (value * 16 + digit + 1) * 16 ^ most
              ≤ (value + 1) * 16 * 16 ^ most := Nat.mul_le_mul_right _ (by omega)
            _ = (value + 1) * 16 ^ (most + 1) := by rw [Nat.mul_assoc, Nat.pow_succ']
            _ ≤ UInt32.size := hbound
        have hsmall : value * 16 + digit < UInt32.size :=
          Nat.lt_of_lt_of_le (Nat.lt_succ_self _)
            (Nat.le_trans (Nat.le_mul_of_pos_right _ (Nat.pow_pos (by decide))) hfits)
        have hdigits : leadingDigits (most + 1) (c :: cs) = c :: leadingDigits most cs := by
          simp [leadingDigits, isHexDigit, hdigit]
        rw [leadingCode]
        simp only [hdigit, if_pos hsmall, ih hfits, hdigits, List.foldl_cons, Option.getD_some,
          List.length_cons, List.drop_succ_cons]

theorem length_leadingDigits_le (most : Nat) (text : List Char) :
    (leadingDigits most text).length ≤ most := by
  have hfront : leadingDigits most text <+: text.take most := List.takeWhile_prefix isHexDigit
  calc (leadingDigits most text).length
      ≤ (text.take most).length := hfront.length_le
    _ ≤ most := List.length_take_le most text

theorem isHexDigit_of_mem_leadingDigits {most : Nat} {text : List Char} :
    ∀ d ∈ leadingDigits most text, isHexDigit d = true := by
  rw [← List.all_eq_true]
  exact List.all_takeWhile

theorem leadingDigits_append_drop (most : Nat) (text : List Char) :
    leadingDigits most text ++ text.drop (leadingDigits most text).length = text := by
  have hfront : leadingDigits most text <+: text.take most := List.takeWhile_prefix isHexDigit
  have htake : text.take most <+: text := List.take_prefix most text
  exact List.prefix_iff_eq_append.1 (hfront.trans htake)

/-- Digits are all that is read in front of a text that starts with no digit, and of any text where
there may be no more of them. -/
theorem leadingDigits_append {most : Nat} {digits rest : List Char}
    (hdigits : ∀ d ∈ digits, isHexDigit d = true) (hlength : digits.length ≤ most)
    (hrest : digits.length = most ∨ ∀ c ∈ rest.head?, isHexDigit c = false) :
    leadingDigits most (digits ++ rest) = digits := by
  rw [leadingDigits, List.take_append, List.take_of_length_le hlength,
    List.takeWhile_append_of_pos hdigits, List.append_right_eq_self]
  rcases hrest with hfull | hhead
  · rw [hfull, Nat.sub_self, List.take_zero, List.takeWhile_nil]
  · cases rest with
    | nil => simp
    | cons c rest =>
      cases most - digits.length with
      | zero => rfl
      | succ more => simp [hhead c rfl]

/-- Of digits whose number fits in 32 bits, only too few are refused. -/
theorem readCode_eq {least most : Nat} (hmost : most ≤ 8) (text : List Char) :
    readCode least most text =
      if (leadingDigits most text).length < least then .error .missingDigits
      else .ok (numberOf 16 (leadingDigits most text),
        text.drop (leadingDigits most text).length) := by
  have hbound : (0 + 1) * 16 ^ most ≤ UInt32.size := by
    rw [Nat.zero_add, Nat.one_mul]
    exact Nat.pow_le_pow_right (by decide) hmost
  rw [readCode, leadingCode_eq hbound]
  rfl

/-- A code with a fixed number of digits. -/
theorem readPlainCode_eq_ok_iff {count : Nat} (hcount : count ≤ 8) {refusal : Nat → LiteralError}
    {text rest : List Char} {c : Char} :
    readPlainCode count refusal text = .ok (c, rest) ↔
      ∃ digits, digits.length = count ∧ IsCode digits c ∧ text = digits ++ rest := by
  rw [readPlainCode, readCode_eq hcount]
  constructor
  · intro h
    split at h
    · contradiction
    · rename_i code after hread
      split at hread
      · contradiction
      · rename_i hleast
        cases hread
        split at h
        · rename_i hc
          cases h
          exact ⟨leadingDigits count text,
            Nat.le_antisymm (length_leadingDigits_le _ _) (Nat.not_lt.1 hleast),
            ⟨isHexDigit_of_mem_leadingDigits, charOfCode?_eq_some_iff.1 hc⟩,
            (leadingDigits_append_drop _ _).symm⟩
        · contradiction
  · rintro ⟨digits, rfl, hcode, rfl⟩
    rw [leadingDigits_append hcode.isHexDigit (Nat.le_refl _) (.inl rfl), if_neg (Nat.lt_irrefl _),
      List.drop_left]
    simp only [charOfCode?_eq_some_iff.2 hcode.code_eq]

/-- A code between braces. -/
theorem readBracedCode_eq_ok_iff {text rest : List Char} {c : Char} :
    readBracedCode text = .ok (c, rest) ↔
      ∃ digits, 1 ≤ digits.length ∧ digits.length ≤ 6 ∧ IsCode digits c ∧
        text = digits ++ '\x7d' :: rest := by
  rw [readBracedCode, readCode_eq (by decide)]
  constructor
  · intro h
    split at h
    · contradiction
    · rename_i code after hread
      split at hread
      · contradiction
      · rename_i hleast
        obtain ⟨rfl, hafter⟩ := Prod.mk.inj (Except.ok.inj hread)
        split at h
        · rename_i hc
          cases h
          refine ⟨leadingDigits 6 text, Nat.not_lt.1 hleast, length_leadingDigits_le _ _,
            ⟨isHexDigit_of_mem_leadingDigits, charOfCode?_eq_some_iff.1 hc⟩, ?_⟩
          rw [← hafter, leadingDigits_append_drop]
        · contradiction
    · contradiction
  · rintro ⟨digits, hleast, hmost, hcode, rfl⟩
    -- The brace ends the digits, however few they are.
    have hbrace : ∀ d ∈ ('\x7d' :: rest).head?, isHexDigit d = false := by
      rintro d ⟨⟩
      decide
    rw [leadingDigits_append hcode.isHexDigit hmost (.inr hbrace), if_neg (Nat.not_lt.2 hleast),
      List.drop_left]
    simp only [charOfCode?_eq_some_iff.2 hcode.code_eq]

/-! ## Escapes -/

/-- The characters that stand for a character behind a backslash, each with the one it stands for. -/
def shortEscapes : List (Char × Char) :=
  [('\\', '\\'), ('\"', '\"'), ('\'', '\''), ('/', '/'), ('n', '\n'), ('t', '\t'), ('r', '\r'),
    ('0', '\x00'), ('b', '\x08'), ('f', '\x0c'), ('v', '\x0b')]

/-- A text that stands for a character behind a backslash. -/
inductive Escape : List Char → Char → Prop
  /-- A single character. -/
  | short {c meant : Char} (known : (c, meant) ∈ shortEscapes) : Escape [c] meant
  /-- A code of two digits. -/
  | byte {digits : List Char} {c : Char} (count : digits.length = 2) (code : IsCode digits c) :
      Escape ('x' :: digits) c
  /-- A code of four digits. -/
  | plain {digits : List Char} {c : Char} (count : digits.length = 4) (code : IsCode digits c) :
      Escape ('u' :: digits) c
  /-- A code of one to six digits between braces. -/
  | braced {digits : List Char} {c : Char} (least : 1 ≤ digits.length) (most : digits.length ≤ 6)
      (code : IsCode digits c) : Escape ('u' :: '\x7b' :: (digits ++ ['\x7d'])) c

theorem shortEscape?_eq_some_iff {c meant : Char} :
    shortEscape? c = some meant ↔ (c, meant) ∈ shortEscapes := by
  constructor
  · intro h
    unfold shortEscape? at h
    split at h
    all_goals first | contradiction | cases h; decide
  · intro h
    simp only [shortEscapes, List.mem_cons, Prod.mk.injEq, List.not_mem_nil, or_false] at h
    rcases h with ⟨rfl, rfl⟩ | ⟨rfl, rfl⟩ | ⟨rfl, rfl⟩ | ⟨rfl, rfl⟩ | ⟨rfl, rfl⟩ | ⟨rfl, rfl⟩ |
      ⟨rfl, rfl⟩ | ⟨rfl, rfl⟩ | ⟨rfl, rfl⟩ | ⟨rfl, rfl⟩ | ⟨rfl, rfl⟩
    all_goals rfl

/-- Behind a backslash an escape is read, whatever follows it. -/
theorem readEscape_eq_ok_iff {text rest : List Char} {c : Char} :
    readEscape text = .ok (c, rest) ↔ ∃ front, Escape front c ∧ text = front ++ rest := by
  constructor
  · intro h
    unfold readEscape at h
    split at h
    · contradiction
    · obtain ⟨digits, hcount, hcode, rfl⟩ := (readPlainCode_eq_ok_iff (by decide)).1 h
      exact ⟨_, .byte hcount hcode, rfl⟩
    · obtain ⟨digits, hleast, hmost, hcode, rfl⟩ := readBracedCode_eq_ok_iff.1 h
      exact ⟨_, .braced hleast hmost hcode, by simp⟩
    · obtain ⟨digits, hcount, hcode, rfl⟩ := (readPlainCode_eq_ok_iff (by decide)).1 h
      exact ⟨_, .plain hcount hcode, rfl⟩
    · split at h
      · rename_i hmeant
        cases h
        exact ⟨_, .short (shortEscape?_eq_some_iff.1 hmeant), rfl⟩
      · contradiction
  · rintro ⟨front, hfront, rfl⟩
    cases hfront with
    | @short d _ known =>
      -- The letters that announce codes are no escapes of their own.
      have hletters : d ≠ 'x' ∧ d ≠ 'u' := by
        have hall : ∀ entry ∈ shortEscapes, entry.1 ≠ 'x' ∧ entry.1 ≠ 'u' := by decide
        exact hall _ known
      rw [List.singleton_append, readEscape]
      · simp only [shortEscape?_eq_some_iff.2 known]
      · exact hletters.1
      · exact fun _ hu => absurd hu hletters.2
      · exact hletters.2
    | byte count code =>
      exact (readPlainCode_eq_ok_iff (by decide)).2 ⟨_, count, code, rfl⟩
    | @plain digits _ count code =>
      rw [List.cons_append, readEscape]
      · exact (readPlainCode_eq_ok_iff (by decide)).2 ⟨_, count, code, rfl⟩
      · -- A brace is no digit.
        intro more hbrace
        cases digits with
        | nil => contradiction
        | cons d ds =>
          have hdigit := code.isHexDigit d List.mem_cons_self
          rw [(List.cons.inj hbrace).1] at hdigit
          contradiction
    | braced least most code =>
      exact readBracedCode_eq_ok_iff.2 ⟨_, least, most, code, by simp⟩

/-- No escape is the beginning of another one. -/
theorem Escape.unique {front front' rest rest' : List Char} {c c' : Char} (h : Escape front c)
    (h' : Escape front' c') (htext : front ++ rest = front' ++ rest') :
    front = front' ∧ c = c' ∧ rest = rest' := by
  have hread : readEscape (front ++ rest) = .ok (c, rest) := readEscape_eq_ok_iff.2 ⟨front, h, rfl⟩
  rw [htext, readEscape_eq_ok_iff.2 ⟨front', h', rfl⟩] at hread
  cases hread
  exact ⟨List.append_cancel_right htext, rfl, rfl⟩

/-! ## Pieces -/

/-- A piece of a literal between two `quote` marks, and the character that it stands for. -/
inductive Piece (quote : Char) : List Char → Char → Prop
  /-- Any character but the quote and the backslash stands for itself. -/
  | plain {c : Char} (open_ : c ≠ quote) (unescaped : c ≠ '\\') : Piece quote [c] c
  /-- A backslash stands in front of an escape. -/
  | escape {text : List Char} {c : Char} (behind : Escape text c) : Piece quote ('\\' :: text) c

/-- No piece is the beginning of another one. -/
theorem Piece.unique {quote : Char} {front front' rest rest' : List Char} {c c' : Char}
    (h : Piece quote front c) (h' : Piece quote front' c') (htext : front ++ rest = front' ++ rest') :
    front = front' ∧ c = c' ∧ rest = rest' := by
  cases h with
  | plain open_ unescaped =>
    cases h' with
    | plain open_' unescaped' =>
      cases htext
      exact ⟨rfl, rfl, rfl⟩
    | escape behind' => exact absurd (List.cons.inj htext).1 unescaped
  | escape behind =>
    cases h' with
    | plain open_' unescaped' => exact absurd (List.cons.inj htext).1.symm unescaped'
    | escape behind' =>
      obtain ⟨rfl, rfl, rfl⟩ := behind.unique behind' (List.cons.inj htext).2
      exact ⟨rfl, rfl, rfl⟩

/-- No piece starts with the quote. -/
theorem Piece.not_quote {quote : Char} (hquote : quote ≠ '\\') {front rest rest' : List Char}
    {c : Char} (h : Piece quote front c) : front ++ rest ≠ quote :: rest' := by
  cases h with
  | plain open_ unescaped => exact fun htext => open_ (List.cons.inj htext).1
  | escape behind => exact fun htext => hquote (List.cons.inj htext).1.symm

/-- Behind a piece, a literal is read on. -/
theorem readBody_append {quote : Char} {front : List Char} {c : Char} (h : Piece quote front c)
    (rest : List Char) :
    readBody quote (front ++ rest) =
      (readBody quote rest).map fun read => (c :: read.1, read.2) := by
  cases h with
  | plain open_ unescaped =>
    rw [List.singleton_append, readBody, if_neg unescaped, if_neg open_]
    cases readBody quote rest <;> rfl
  | @escape text _ behind =>
    have hread : readEscape (text ++ rest) = .ok (c, rest) :=
      readEscape_eq_ok_iff.2 ⟨text, behind, rfl⟩
    rw [List.cons_append, readBody, if_pos rfl]
    split
    · rename_i heq
      rw [hread] at heq
      contradiction
    · rename_i heq
      rw [hread] at heq
      cases heq
      cases readBody quote rest <;> rfl

theorem readBody_piece {quote : Char} {front rest value after : List Char} {c : Char}
    (h : Piece quote front c) (hrest : readBody quote rest = .ok (value, after)) :
    readBody quote (front ++ rest) = .ok (c :: value, after) := by
  rw [readBody_append h, hrest]
  rfl

/-- The body of a literal is read piece by piece up to the quote. -/
theorem readBody_eq_ok_iff {quote : Char} (hquote : quote ≠ '\\') {text value after : List Char} :
    readBody quote text = .ok (value, after) ↔
      ∃ pieces : List (List Char × Char), (∀ piece ∈ pieces, Piece quote piece.1 piece.2) ∧
        text = pieces.flatMap Prod.fst ++ quote :: after ∧ pieces.map Prod.snd = value := by
  constructor
  · intro h
    fun_induction readBody quote text generalizing value with
    | case1 => contradiction
    | case2 => contradiction
    | case3 => contradiction
    | case4 cs meant rest hescape body after' hbody ih =>
      cases h
      obtain ⟨pieces, hpieces, rfl, rfl⟩ := ih hbody
      obtain ⟨front, hfront, rfl⟩ := readEscape_eq_ok_iff.1 hescape
      exact ⟨('\\' :: front, meant) :: pieces, List.forall_mem_cons.2 ⟨.escape hfront, hpieces⟩,
        by simp, rfl⟩
    | case5 =>
      cases h
      exact ⟨[], by simp, rfl, rfl⟩
    | case6 => contradiction
    | case7 c cs hslash hopen body after' hbody ih =>
      cases h
      obtain ⟨pieces, hpieces, rfl, rfl⟩ := ih hbody
      exact ⟨([c], c) :: pieces, List.forall_mem_cons.2 ⟨.plain hopen hslash, hpieces⟩, rfl, rfl⟩
  · rintro ⟨pieces, hpieces, rfl, rfl⟩
    induction pieces with
    | nil => rw [List.flatMap_nil, List.nil_append, readBody, if_neg hquote, if_pos rfl, List.map_nil]
    | cons piece pieces ih =>
      obtain ⟨hpiece, hpieces⟩ := List.forall_mem_cons.1 hpieces
      rw [List.flatMap_cons, List.append_assoc, List.map_cons]
      exact readBody_piece hpiece (ih hpieces)

/-- A text is divided into pieces and a quote behind them in one way only. -/
theorem pieces_unique {quote : Char} (hquote : quote ≠ '\\') {after after' : List Char}
    {pieces pieces' : List (List Char × Char)}
    (h : ∀ piece ∈ pieces, Piece quote piece.1 piece.2)
    (h' : ∀ piece ∈ pieces', Piece quote piece.1 piece.2)
    (htext : pieces.flatMap Prod.fst ++ quote :: after = pieces'.flatMap Prod.fst ++ quote :: after') :
    pieces = pieces' := by
  induction pieces generalizing pieces' with
  | nil =>
    -- A piece does not start with the quote that the first division ends at.
    cases pieces' with
    | nil => rfl
    | cons piece' pieces' =>
      obtain ⟨hpiece', -⟩ := List.forall_mem_cons.1 h'
      rw [List.flatMap_cons, List.append_assoc] at htext
      exact absurd htext.symm (hpiece'.not_quote hquote)
  | cons piece pieces ih =>
    obtain ⟨hpiece, hpieces⟩ := List.forall_mem_cons.1 h
    rw [List.flatMap_cons, List.append_assoc] at htext
    cases pieces' with
    | nil => exact absurd htext (hpiece.not_quote hquote)
    | cons piece' pieces' =>
      obtain ⟨hpiece', hpieces'⟩ := List.forall_mem_cons.1 h'
      rw [List.flatMap_cons, List.append_assoc] at htext
      obtain ⟨hfront, hmeant, hrest⟩ := hpiece.unique hpiece' htext
      rw [Prod.ext hfront hmeant, ih hpieces hpieces' hrest]

/-! ## Literals -/

/-- A reading of a text as a string literal. -/
structure LiteralReading (text : List Char) where
  /-- The quote that the literal starts and ends with. -/
  quote : Char
  /-- The pieces between the quotes, each with the character that it stands for. -/
  pieces : List (List Char × Char)
  /-- Two characters are quotes. -/
  isQuote : quote = '\"' ∨ quote = '\''
  /-- The pieces are pieces for that quote. -/
  isPiece : ∀ piece ∈ pieces, Piece quote piece.1 piece.2
  /-- The text is made up of them. -/
  text_eq : text = quote :: (pieces.flatMap Prod.fst ++ [quote])

namespace LiteralReading

variable {text : List Char}

/-- The text that the literal stands for. -/
def value (reading : LiteralReading text) : List Char := reading.pieces.map Prod.snd

theorem quote_ne_slash (reading : LiteralReading text) : reading.quote ≠ '\\' := by
  obtain h | h := reading.isQuote <;> rw [h] <;> decide

/-- No text can be read in two ways. -/
instance instSubsingleton : Subsingleton (LiteralReading text) := by
  constructor
  rintro first second
  have htext := first.text_eq.symm.trans second.text_eq
  have hslash := first.quote_ne_slash
  obtain ⟨quote, pieces, isQuote, isPiece, text_eq⟩ := first
  obtain ⟨quote', pieces', isQuote', isPiece', text_eq'⟩ := second
  obtain ⟨rfl, hbody⟩ := List.cons.inj htext
  obtain rfl := pieces_unique hslash isPiece isPiece' hbody
  rfl

end LiteralReading

/-- **The texts that have a reading are those that stand for something.** -/
theorem decodeString_eq_ok_iff {text value : List Char} :
    decodeString text = .ok value ↔ ∃ reading : LiteralReading text, reading.value = value := by
  constructor
  · intro h
    unfold decodeString at h
    split at h
    · rename_i quote rest
      split at h
      · rename_i hquote
        have hslash : quote ≠ '\\' := by
          obtain rfl | rfl := hquote <;> decide
        split at h
        · contradiction
        · rename_i hbody
          cases h
          obtain ⟨pieces, hpieces, rfl, rfl⟩ := (readBody_eq_ok_iff hslash).1 hbody
          exact ⟨⟨quote, pieces, hquote, hpieces, rfl⟩, rfl⟩
        · contradiction
      · contradiction
    · contradiction
  · rintro ⟨reading, rfl⟩
    have hslash := reading.quote_ne_slash
    obtain ⟨quote, pieces, isQuote, isPiece, rfl⟩ := reading
    have hbody : readBody quote (pieces.flatMap Prod.fst ++ [quote]) = .ok (pieces.map Prod.snd, []) :=
      (readBody_eq_ok_iff hslash).2 ⟨pieces, isPiece, rfl, rfl⟩
    simp only [decodeString, if_pos isQuote, hbody]
    rfl

/-! ## Failures -/

/-- Whether reading a literal can fail so. No escape has digits enough for a number beyond 32 bits,
and every number of two digits is the code of a character. -/
def LiteralError.isPossible : LiteralError → Bool
  | .codeTooLarge => false
  | .invalidByte => false
  | _ => true

theorem numberOf_lt (digits : List Char) : numberOf 16 digits < 16 ^ digits.length := by
  have hfold (value : Nat) :
      digits.foldl (fun value d => value * 16 + (hexValue? d).getD 0) value <
        (value + 1) * 16 ^ digits.length := by
    induction digits generalizing value with
    | nil => simp
    | cons d digits ih =>
      have hdigit : (hexValue? d).getD 0 < 16 := by
        cases hd : hexValue? d with
        | none => decide
        | some digit => exact hexValue?_lt hd
      calc digits.foldl (fun value d => value * 16 + (hexValue? d).getD 0)
              (value * 16 + (hexValue? d).getD 0)
          < (value * 16 + (hexValue? d).getD 0 + 1) * 16 ^ digits.length := ih _
        _ ≤ (value + 1) * 16 * 16 ^ digits.length := Nat.mul_le_mul_right _ (by omega)
        _ = (value + 1) * 16 ^ (d :: digits).length := by
          rw [Nat.mul_assoc, List.length_cons, Nat.pow_succ']
  rw [numberOf, ← Nat.one_mul (16 ^ digits.length)]
  exact hfold 0

theorem isPossible_of_readPlainCode {count : Nat} (hcount : count ≤ 8)
    {refusal : Nat → LiteralError} {text : List Char} {error : LiteralError}
    (hrefusal : ∀ code, code < 16 ^ count → charOfCode? code = none → (refusal code).isPossible = true)
    (h : readPlainCode count refusal text = .error error) : error.isPossible = true := by
  rw [readPlainCode, readCode_eq hcount] at h
  split at h
  · rename_i hread
    split at hread
    · cases hread
      cases h
      rfl
    · contradiction
  · rename_i code rest hread
    split at hread
    · contradiction
    · cases hread
      split at h
      · contradiction
      · rename_i hnone
        cases h
        refine hrefusal _ (Nat.lt_of_lt_of_le (numberOf_lt _) ?_) hnone
        exact Nat.pow_le_pow_right (by decide) (length_leadingDigits_le _ _)

theorem isPossible_of_readBracedCode {text : List Char} {error : LiteralError}
    (h : readBracedCode text = .error error) : error.isPossible = true := by
  rw [readBracedCode, readCode_eq (by decide)] at h
  split at h
  · rename_i hread
    split at hread
    · cases hread
      cases h
      rfl
    · contradiction
  · split at h
    · contradiction
    · cases h
      rfl
  · cases h
    rfl

theorem isPossible_of_readEscape {text : List Char} {error : LiteralError}
    (h : readEscape text = .error error) : error.isPossible = true := by
  unfold readEscape at h
  split at h
  · cases h
    rfl
  · -- Two digits stay below 256, where every number is the code of a character.
    refine isPossible_of_readPlainCode (by decide) (fun code hcode hnone => ?_) h
    have hvalid : code.isValidChar := .inl (by omega)
    rw [charOfCode?, dif_pos hvalid] at hnone
    contradiction
  · exact isPossible_of_readBracedCode h
  · exact isPossible_of_readPlainCode (by decide) (fun _ _ _ => rfl) h
  · split at h
    · contradiction
    · cases h
      rfl

theorem isPossible_of_readBody {quote : Char} {text : List Char} {error : LiteralError}
    (h : readBody quote text = .error error) : error.isPossible = true := by
  fun_induction readBody quote text with
  | case1 => cases h; rfl
  | case2 cs error' hescape =>
    cases h
    exact isPossible_of_readEscape hescape
  | case3 cs meant rest hescape error' hbody ih =>
    cases h
    exact ih hbody
  | case4 => contradiction
  | case5 => contradiction
  | case6 c cs hslash hopen error' hbody ih =>
    cases h
    exact ih hbody
  | case7 => contradiction

/-- **Two of the failures never occur.** -/
theorem isPossible_of_decodeString {text : List Char} {error : LiteralError}
    (h : decodeString text = .error error) : error.isPossible = true := by
  unfold decodeString at h
  split at h
  · split at h
    · split at h
      · rename_i hbody
        cases h
        exact isPossible_of_readBody hbody
      · contradiction
      · cases h
        rfl
    · cases h
      rfl
  · cases h
    rfl

/-- How the message of a failure starts, which tells the kinds of failures apart. -/
def LiteralError.front : LiteralError → String
  | .noOpeningQuote => "Expected o"
  | .noClosingQuote => "Expected c"
  | .trailingText => "Trailing c"
  | .missingDigits => "Expected h"
  | .noClosingBrace => "Expected '"
  | .codeTooLarge => "Escape val"
  | .invalidByte => "Invalid ch"
  | .invalidCode _ => "Invalid un"
  | .unknownEscape _ => "Unknown ch"

theorem LiteralError.take_message (error : LiteralError) :
    error.message.toList.take 10 = error.front.toList := by
  cases error with
  | invalidCode code =>
    show ("Invalid unicode scalar value 0x" ++ String.ofList (hexDigits code)).toList.take 10 = _
    rw [String.toList_append, List.take_append_of_le_length (by decide)]
    show _ = "Invalid un".toList
    decide
  | unknownEscape c =>
    show ("Unknown character escape '" ++ String.ofList (plainEscape c) ++ "'").toList.take 10 = _
    rw [String.append_assoc, String.toList_append, List.take_append_of_le_length (by decide)]
    show _ = "Unknown ch".toList
    decide
  | _ => decide

/-- Failures of different kinds have different messages. -/
theorem LiteralError.message_ne_of_front {error other : LiteralError}
    (h : error.front ≠ other.front) : error.message ≠ other.message := by
  intro hmessage
  refine h (String.toList_inj.1 ?_)
  rw [← take_message, ← take_message, hmessage]

/-- A failure that occurs does not have the message of one that never does. -/
theorem LiteralError.message_ne {error other : LiteralError} (h : error.isPossible = true)
    (hother : other.isPossible = false) : error.message ≠ other.message := by
  apply message_ne_of_front
  cases other with
  | codeTooLarge => cases error <;> first | contradiction | simp [front]
  | invalidByte => cases error <;> first | contradiction | simp [front]
  | _ => contradiction

theorem stringValue_ne_of_impossible {error : LiteralError} (h : error.isPossible = false)
    (text : String) : stringValue text ≠ .error error.message := by
  rw [stringValue]
  split
  · simp
  · rename_i hdecode
    simpa using LiteralError.message_ne (isPossible_of_decodeString hdecode) h

/-- **A text stands for a value if it is a quote, pieces and the same quote again**, and for the text
that the pieces stand for. It can be divided so in one way only, and a code is never refused for
being too large nor, if it has two digits, for being no character. -/
theorem stringValue_language (text : String) :
    (∀ value, stringValue text = .ok value ↔
      ∃ reading : LiteralReading text.toList, value = .text (String.ofList reading.value)) ∧
    Subsingleton (LiteralReading text.toList) ∧
    (decodeString text.toList ≠ .error .codeTooLarge ∧
      decodeString text.toList ≠ .error .invalidByte) ∧
    stringValue text ≠ .error LiteralError.codeTooLarge.message ∧
    stringValue text ≠ .error LiteralError.invalidByte.message := by
  refine ⟨fun value => ?_, inferInstance, ⟨fun h => ?_, fun h => ?_⟩,
    stringValue_ne_of_impossible rfl text, stringValue_ne_of_impossible rfl text⟩
  · have hdecode : stringValue text = .ok value ↔
        ∃ body, decodeString text.toList = .ok body ∧ value = .text (String.ofList body) := by
      rw [stringValue]
      cases decodeString text.toList with
      | ok body => simp [eq_comm]
      | error error => simp
    simp only [hdecode, decodeString_eq_ok_iff]
    constructor
    · rintro ⟨_, ⟨reading, rfl⟩, rfl⟩
      exact ⟨reading, rfl⟩
    · rintro ⟨reading, rfl⟩
      exact ⟨_, ⟨reading, rfl⟩, rfl⟩
  · exact absurd (isPossible_of_decodeString h) (by decide)
  · exact absurd (isPossible_of_decodeString h) (by decide)

end GrammarLang.Grammar

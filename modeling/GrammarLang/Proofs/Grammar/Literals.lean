import GrammarLang.Proofs.Grammar.Leads
import GrammarLang.Proofs.Grammar.StringLanguage

/-! # Literals that read back

A text that is written with **`quote`** is one word of the notation, which stands for the text again;
so is a number written with decimal digits. -/

namespace GrammarLang.Grammar

open GrammarLang.Scan GrammarLang.Text

variable {table : RuleTable}

/-! ## Texts -/

/-- What is written for a character is a piece that stands for it. -/
theorem piece_quoteChar (c : Char) : Piece '\"' (quoteChar c) c := by
  unfold quoteChar
  split
  · exact .escape (.short (by decide))
  · exact .escape (.short (by decide))
  · exact .escape (.short (by decide))
  · exact .escape (.short (by decide))
  · exact .escape (.short (by decide))
  · exact .escape (.short (by decide))
  · rename_i hquote hslash _ _ _ _
    split
    · rename_i hcontrol
      -- All control characters have codes below 160.
      have hall : ∀ n < 160, 1 ≤ (hexDigits n).length ∧ (hexDigits n).length ≤ 6 ∧
          (hexDigits n).all isHexDigit = true ∧ n = numberOf 16 (hexDigits n) := by
        decide +kernel
      obtain ⟨hleast, hmost, hdigits, hcode⟩ :=
        hall c.toNat (Unicode.Ranges.lt_of_contains (by decide) hcontrol)
      exact .escape (.braced hleast hmost ⟨List.all_eq_true.1 hdigits, hcode⟩)
    · exact .plain hquote hslash

/-- How a literal is read that was written for a text. -/
def quoteReading (value : List Char) : LiteralReading (quote value) where
  quote := '\"'
  pieces := value.map fun c => (quoteChar c, c)
  isQuote := .inl rfl
  isPiece := by
    rintro _ hpiece
    obtain ⟨c, -, rfl⟩ := List.mem_map.1 hpiece
    exact piece_quoteChar c
  text_eq := by rw [List.flatMap_map]; rfl

theorem value_quoteReading (value : List Char) : (quoteReading value).value = value := by
  simp [LiteralReading.value, quoteReading, Function.comp_def]

/-- A literal stands for the text it was made from. -/
theorem decodeString_quote (value : List Char) : decodeString (quote value) = .ok value :=
  decodeString_eq_ok_iff.2 ⟨quoteReading value, value_quoteReading value⟩

theorem not_quote_of_isHexDigit {quote c : Char} (hquote : quote = '\"' ∨ quote = '\'')
    (hc : isHexDigit c = true) : c ≠ quote ∧ c ≠ '\\' := by
  refine ⟨?_, ?_⟩
  · rintro rfl
    obtain rfl | rfl := hquote <;> contradiction
  · rintro rfl
    contradiction

/-- Behind the first character of an escape there are no quotes and no backslashes. -/
theorem Escape.exists_cons {quote : Char} (hquote : quote = '\"' ∨ quote = '\'') {text : List Char}
    {meant : Char} (h : Escape text meant) :
    ∃ d ds, text = d :: ds ∧ ∀ c ∈ ds, c ≠ quote ∧ c ≠ '\\' := by
  cases h with
  | short known => exact ⟨_, [], rfl, by simp⟩
  | byte count code =>
    exact ⟨_, _, rfl, fun c hc => not_quote_of_isHexDigit hquote (code.isHexDigit c hc)⟩
  | plain count code =>
    exact ⟨_, _, rfl, fun c hc => not_quote_of_isHexDigit hquote (code.isHexDigit c hc)⟩
  | braced least most code =>
    refine ⟨_, _, rfl, fun c hc => ?_⟩
    simp only [List.mem_cons, List.mem_append, List.not_mem_nil, or_false] at hc
    obtain rfl | hdigit | rfl := hc
    · obtain rfl | rfl := hquote <;> decide
    · exact not_quote_of_isHexDigit hquote (code.isHexDigit c hdigit)
    · obtain rfl | rfl := hquote <;> decide

/-- Characters that are no quotes and no backslashes do not end a string. -/
theorem stringEnd?_append {quote : Char} {cs rest : List Char}
    (hcs : ∀ c ∈ cs, c ≠ quote ∧ c ≠ '\\') :
    stringEnd? quote (cs ++ rest) = stringEnd? quote rest := by
  induction cs with
  | nil => rfl
  | cons c cs ih =>
    obtain ⟨hquote, hslash⟩ := hcs c List.mem_cons_self
    rw [← ih fun d hd => hcs d (List.mem_cons_of_mem _ hd), List.cons_append]
    cases cs ++ rest with
    | nil => simp [stringEnd?, hquote]
    | cons d ds => rw [stringEnd?, if_neg hquote, if_neg hslash]

/-- A piece does not end a string. -/
theorem stringEnd?_piece {quote : Char} (hquote : quote = '\"' ∨ quote = '\'')
    {front rest : List Char} {c : Char} (h : Piece quote front c) :
    stringEnd? quote (front ++ rest) = stringEnd? quote rest := by
  cases h with
  | plain open_ unescaped => exact stringEnd?_append (by simp [open_, unescaped])
  | escape behind =>
    obtain ⟨d, ds, rfl, hds⟩ := behind.exists_cons hquote
    have hslash : '\\' ≠ quote := by
      obtain rfl | rfl := hquote <;> decide
    rw [List.cons_append, List.cons_append, stringEnd?, if_neg hslash, if_pos rfl,
      stringEnd?_append hds]

/-- A string ends at the quote behind its pieces. -/
theorem stringEnd?_pieces {quote : Char} (hquote : quote = '\"' ∨ quote = '\'')
    {pieces : List (List Char × Char)} (h : ∀ piece ∈ pieces, Piece quote piece.1 piece.2)
    (rest : List Char) :
    stringEnd? quote (pieces.flatMap Prod.fst ++ quote :: rest) = some rest := by
  induction pieces with
  | nil =>
    rw [List.flatMap_nil, List.nil_append]
    cases rest with
    | nil => rw [stringEnd?, if_pos rfl]
    | cons c rest => rw [stringEnd?, if_pos rfl]
  | cons piece pieces ih =>
    obtain ⟨hpiece, hpieces⟩ := List.forall_mem_cons.1 h
    rw [List.flatMap_cons, List.append_assoc, stringEnd?_piece hquote hpiece, ih hpieces]

/-- A literal ends where it was written to its end. -/
theorem stringEnd?_flatMap (value rest : List Char) :
    stringEnd? '\"' (value.flatMap quoteChar ++ '\"' :: rest) = some rest := by
  have hend := stringEnd?_pieces (.inl rfl) (quoteReading value).isPiece rest
  rwa [show (quoteReading value).pieces = value.map fun c => (quoteChar c, c) from rfl,
    List.flatMap_map] at hend

theorem stringValue_quote (value : String) :
    stringValue (String.ofList (quote value.toList)) = .ok (.text value) := by
  rw [stringValue, String.toList_ofList, decodeString_quote]
  simp

/-- A text that is written as a literal is a word. -/
theorem word_quote (h : Lexicon.table = .ok table) (value : String) (rest : List Char) :
    Word table defaultMode [Lexicon.string] (quote value.toList) rest := by
  have hend := stringEnd?_flatMap value.toList rest
  refine word_string h ?_ ⟨_, stringValue_quote value⟩
  rwa [← List.singleton_append, ← List.append_assoc] at hend

/-! ## Numbers -/

theorem isDigit_eq (c : Char) : isDigit c = c.isDigit := by
  rw [Bool.eq_iff_iff]
  simp only [isDigit, Lexicon.digits, Unicode.Ranges.contains_cons, Unicode.Ranges.contains_nil,
    Char.isDigit, Bool.or_false, Bool.and_eq_true, decide_eq_true_eq, ge_iff_le,
    UInt32.le_iff_toNat_le]
  show (if c.val.toNat < 48 then false else decide (c.val.toNat ≤ 57)) = true ↔ _
  grind

theorem foldl_eq_ofDigitChars {digits : List Char} (hdigits : ∀ c ∈ digits, c.isDigit = true)
    (value : Nat) :
    digits.foldl (fun value digit => value * 10 + (hexValue? digit).getD 0) value =
      Nat.ofDigitChars 10 digits value := by
  induction digits generalizing value with
  | nil => rfl
  | cons c digits ih =>
    have hc : '0' ≤ c ∧ c ≤ '9' := by
      simpa [Char.isDigit, Char.le_def] using hdigits c List.mem_cons_self
    rw [List.foldl_cons, Nat.ofDigitChars_cons, ih fun d hd => hdigits d (List.mem_cons_of_mem _ hd),
      hexValue?, if_pos hc, Option.getD_some, Nat.mul_comm]

theorem isDigit_of_mem_toDigits {n : Nat} {c : Char} (hc : c ∈ Nat.toDigits 10 n) :
    c.isDigit = true := Nat.isDigit_of_mem_toDigits (by decide) (by decide) hc

/-- Decimal digits stand for their number, if it fits in 64 bits. -/
theorem parseUInt64?_digits {digits : List Char} (hne : digits ≠ [])
    (hdigits : ∀ c ∈ digits, c.isDigit = true) :
    parseUInt64? digits = if h : Nat.ofDigitChars 10 digits 0 < UInt64.size then
      some (UInt64.ofNatLT (Nat.ofDigitChars 10 digits 0) h) else none := by
  have hplain : ∀ cs, digits ≠ '+' :: cs := by
    intro cs heq
    have hplus := hdigits '+' (by rw [heq]; exact List.mem_cons_self)
    contradiction
  have hchecked : (digits.isEmpty || !digits.all Char.isDigit) = false := by
    rw [Bool.or_eq_false_iff, List.isEmpty_eq_false_iff, Bool.not_eq_false', List.all_eq_true]
    exact ⟨hne, hdigits⟩
  have hnumber : Text.numberOf 10 digits = Nat.ofDigitChars 10 digits 0 := by
    rw [Text.numberOf, foldl_eq_ofDigitChars hdigits]
  rw [parseUInt64?.eq_def]
  split
  · exact absurd rfl (hplain _)
  · simp only [hchecked, hnumber, Bool.false_eq_true, if_false]

/-- Decimal digits stand for the number that they were made from. -/
theorem parseUInt64?_toDigits (value : UInt64) :
    parseUInt64? (Nat.toDigits 10 value.toNat) = some value := by
  rw [parseUInt64?_digits Nat.toDigits_ne_nil fun _ => isDigit_of_mem_toDigits]
  simp only [Nat.ofDigitChars_ten_toDigits, value.toNat_lt_size, dif_pos]
  rfl

theorem numberValue_toString (value : UInt64) :
    numberValue (toString value.toNat) = .ok (.integer value) := by
  rw [numberValue, Nat.toString_eq_ofList_toDigits, String.toList_ofList, parseUInt64?_toDigits]

/-- A number is written with decimal digits, at least one of them. -/
theorem exists_digits (value : UInt64) :
    ∃ c cs, (toString value.toNat).toList = c :: cs ∧ ∀ d ∈ c :: cs, isDigit d = true := by
  rw [Nat.toString_eq_ofList_toDigits, String.toList_ofList]
  have hdigits : ∀ c ∈ Nat.toDigits 10 value.toNat, isDigit c = true := by
    intro c hc
    rw [isDigit_eq]
    exact isDigit_of_mem_toDigits hc
  obtain ⟨c, cs, heq⟩ := List.exists_cons_of_ne_nil (Nat.toDigits_ne_nil (n := value.toNat) (b := 10))
  exact ⟨c, cs, heq, heq ▸ hdigits⟩

/-- A number that is written with decimal digits is a word. -/
theorem word_toString (h : Lexicon.table = .ok table) (value : UInt64) {rest : List Char}
    (hrest : Apart rest) :
    Word table defaultMode [Lexicon.number] (toString value.toNat).toList rest := by
  have hvalue := numberValue_toString value
  obtain ⟨c, cs, hdigits, hall⟩ := exists_digits value
  rw [← String.ofList_toList (s := toString value.toNat), hdigits] at hvalue
  rw [hdigits]
  exact word_number h (hall c List.mem_cons_self) (fun d hd => hall d (List.mem_cons_of_mem _ hd))
    hrest ⟨_, hvalue⟩

end GrammarLang.Grammar

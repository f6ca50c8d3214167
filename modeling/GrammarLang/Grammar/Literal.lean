import GrammarLang.Scan.RuleTable
import GrammarLang.Text.Digits

/-! # String and number literals

A string literal stands between two equal quotes, single or double, and a backslash in it starts an
escape. **`decodeString`** reads one and says why if it cannot; **`quote`** writes one that reads
back as the text it was made from. **`stringValue`** and **`numberValue`** are the decoders for
scanner rules. -/

namespace GrammarLang.Grammar

open GrammarLang.Scan GrammarLang.Text

/-- Why a text is no string literal. -/
inductive LiteralError
  /-- It does not start with a quote. -/
  | noOpeningQuote
  /-- It ends before the quote comes again. -/
  | noClosingQuote
  /-- It goes on behind the closing quote. -/
  | trailingText
  /-- An escape by code has too few digits. -/
  | missingDigits
  /-- A code between braces has no closing brace. -/
  | noClosingBrace
  /-- A code does not fit in 32 bits. -/
  | codeTooLarge
  /-- A two-digit code stands for no character. -/
  | invalidByte
  /-- A longer code stands for no character. -/
  | invalidCode (code : Nat)
  /-- A backslash is followed by a character that starts no escape. -/
  | unknownEscape (c : Char)
  deriving DecidableEq, Repr, Inhabited

/-- The failure in words. -/
def LiteralError.message : LiteralError → String
  | .noOpeningQuote => "Expected opening quote"
  | .noClosingQuote => "Expected closing quote"
  | .trailingText => "Trailing characters after closing quote"
  | .missingDigits => "Expected hexadecimal digits in escape"
  | .noClosingBrace => "Expected '\x7d' to close unicode escape"
  | .codeTooLarge => "Escape value is too large"
  | .invalidByte => "Invalid character escape"
  | .invalidCode code =>
    s!"Invalid unicode scalar value 0x{String.ofList (hexDigits code)}"
  | .unknownEscape c => s!"Unknown character escape '{String.ofList (plainEscape c)}'"

/-- The number that leading hexadecimal digits of a text stand for, at most `most` of them, on top
of the `value` of digits before them; also how many digits there were, and the text behind them. -/
def leadingCode (value : Nat) :
    (most : Nat) → List Char → Except LiteralError (Nat × Nat × List Char)
  | 0, text => .ok (value, 0, text)
  | _ + 1, [] => .ok (value, 0, [])
  | most + 1, c :: cs =>
    match hexValue? c with
    | none => .ok (value, 0, c :: cs)
    | some digit =>
      if value * 16 + digit < UInt32.size then
        match leadingCode (value * 16 + digit) most cs with
        | .error error => .error error
        | .ok (code, count, rest) => .ok (code, count + 1, rest)
      else .error .codeTooLarge

/-- A code of at least `least` and at most `most` hexadecimal digits, and the text behind it. -/
def readCode (least most : Nat) (text : List Char) : Except LiteralError (Nat × List Char) :=
  match leadingCode 0 most text with
  | .error error => .error error
  | .ok (code, count, rest) => if count < least then .error .missingDigits else .ok (code, rest)

/-- The character of a code of exactly `digits` digits; `refusal` says what to answer when there is
no such character. -/
def readPlainCode (digits : Nat) (refusal : Nat → LiteralError) (text : List Char) :
    Except LiteralError (Char × List Char) :=
  match readCode digits digits text with
  | .error error => .error error
  | .ok (code, rest) =>
    match charOfCode? code with
    | some c => .ok (c, rest)
    | none => .error (refusal code)

/-- The character of a code of one to six digits with a closing brace behind them. -/
def readBracedCode (text : List Char) : Except LiteralError (Char × List Char) :=
  match readCode 1 6 text with
  | .error error => .error error
  | .ok (code, '\x7d' :: rest) =>
    match charOfCode? code with
    | some c => .ok (c, rest)
    | none => .error (.invalidCode code)
  | .ok _ => .error .noClosingBrace

/-- The character that a single character stands for behind a backslash. -/
def shortEscape? (c : Char) : Option Char :=
  match c with
  | '\\' => some '\\'
  | '\"' => some '\"'
  | '\'' => some '\''
  | '/' => some '/'
  | 'n' => some '\n'
  | 't' => some '\t'
  | 'r' => some '\r'
  | '0' => some '\x00'
  | 'b' => some '\x08'
  | 'f' => some '\x0c'
  | 'v' => some '\x0b'
  | _ => none

/-- The character that an escape stands for, and the text behind it. The backslash is read already,
and so is no part of the text given. -/
def readEscape : List Char → Except LiteralError (Char × List Char)
  | [] => .error .noClosingQuote
  | 'x' :: rest => readPlainCode 2 (fun _ => .invalidByte) rest
  | 'u' :: '\x7b' :: rest => readBracedCode rest
  | 'u' :: rest => readPlainCode 4 .invalidCode rest
  | c :: rest =>
    match shortEscape? c with
    | some meant => .ok (meant, rest)
    | none => .error (.unknownEscape c)

theorem length_leadingCode_le {value most : Nat} {text rest : List Char} {code count : Nat}
    (h : leadingCode value most text = .ok (code, count, rest)) : rest.length ≤ text.length := by
  induction most generalizing value text code count rest with
  | zero => simp [leadingCode] at h; simp [h]
  | succ most ih =>
    cases text with
    | nil => simp [leadingCode] at h; simp [h]
    | cons c cs =>
      simp only [leadingCode] at h
      split at h
      · simp at h; simp [← h.2.2]
      · split at h
        · split at h
          · contradiction
          · rename_i hrest
            cases h
            exact Nat.le_succ_of_le (ih hrest)
        · contradiction

theorem length_readCode_le {least most : Nat} {text rest : List Char} {code : Nat}
    (h : readCode least most text = .ok (code, rest)) : rest.length ≤ text.length := by
  simp only [readCode] at h
  split at h
  · contradiction
  · rename_i hread
    split at h
    · contradiction
    · cases h
      exact length_leadingCode_le hread

theorem length_readPlainCode_le {digits : Nat} {refusal : Nat → LiteralError}
    {text rest : List Char} {c : Char} (h : readPlainCode digits refusal text = .ok (c, rest)) :
    rest.length ≤ text.length := by
  simp only [readPlainCode] at h
  split at h
  · contradiction
  · rename_i hread
    split at h
    · cases h
      exact length_readCode_le hread
    · contradiction

theorem length_readBracedCode_le {text rest : List Char} {c : Char}
    (h : readBracedCode text = .ok (c, rest)) : rest.length ≤ text.length := by
  simp only [readBracedCode] at h
  split at h
  · contradiction
  · rename_i hread
    split at h
    · cases h
      exact Nat.le_of_succ_le (length_readCode_le hread)
    · contradiction
  · contradiction

/-- An escape takes at least one character. -/
theorem length_readEscape_lt {text rest : List Char} {c : Char}
    (h : readEscape text = .ok (c, rest)) : rest.length < text.length := by
  unfold readEscape at h
  split at h
  · contradiction
  · exact Nat.lt_succ_of_le (length_readPlainCode_le h)
  · exact Nat.lt_succ_of_le (Nat.le_succ_of_le (length_readBracedCode_le h))
  · exact Nat.lt_succ_of_le (length_readPlainCode_le h)
  · split at h
    · cases h; simp
    · contradiction

/-- The text of a literal, from behind its opening quote up to the closing one. -/
def readBody (quote : Char) (text : List Char) : Except LiteralError (List Char × List Char) :=
  match text with
  | [] => .error .noClosingQuote
  | c :: cs =>
    if c = '\\' then
      match _ : readEscape cs with
      | .error error => .error error
      | .ok (meant, rest) =>
        match readBody quote rest with
        | .error error => .error error
        | .ok (body, after) => .ok (meant :: body, after)
    else if c = quote then .ok ([], cs)
    else
      match readBody quote cs with
      | .error error => .error error
      | .ok (body, after) => .ok (c :: body, after)
termination_by text.length
decreasing_by
  · have := length_readEscape_lt (by assumption)
    simp only [List.length_cons]
    omega
  · simp

/-- The text that a string literal stands for. -/
def decodeString (text : List Char) : Except LiteralError (List Char) :=
  match text with
  | quote :: rest =>
    if quote = '\"' ∨ quote = '\'' then
      match readBody quote rest with
      | .error error => .error error
      | .ok (body, []) => .ok body
      | .ok (_, _ :: _) => .error .trailingText
    else .error .noOpeningQuote
  | [] => .error .noOpeningQuote

/-- How a character is written in a double-quoted literal. -/
def quoteChar (c : Char) : List Char :=
  match c with
  | '\"' => ['\\', '\"']
  | '\\' => ['\\', '\\']
  | '\n' => ['\\', 'n']
  | '\t' => ['\\', 't']
  | '\r' => ['\\', 'r']
  | '\x00' => ['\\', '0']
  | c => if Unicode.isControl c then codeEscape c else [c]

/-- A double-quoted literal for a text. -/
def quote (text : List Char) : List Char := '\"' :: text.flatMap quoteChar ++ ['\"']

/-- The value of a string literal. -/
def stringValue : Decoder := fun text =>
  match decodeString text.toList with
  | .ok body => .ok (.text (String.ofList body))
  | .error error => .error error.message

/-- The value of a decimal number, which must fit in 64 bits. -/
def numberValue : Decoder := fun text =>
  match parseUInt64? text.toList with
  | some number => .ok (.integer number)
  | none => .error "Number does not fit in 64 bits"

end GrammarLang.Grammar

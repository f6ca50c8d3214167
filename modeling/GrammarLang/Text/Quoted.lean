import GrammarLang.Text.Digits
import GrammarLang.Unicode.Recent

/-! # Texts and characters in quotes

Messages show a text or a character in quotes, in a form that leaves no doubt about what it is.
**`quotedString`** uses double quotes, **`quotedChar`** single ones. Inside, the quote itself, the
backslash and the usual control characters are written with a backslash, and every other character
without an image of its own, or that would combine with the one before it, is written as its code.

**`plainEscape`** keeps to plain text: every character beyond it is written as its code. -/

namespace GrammarLang.Text

/-- The code of a character between braces, with `\u` in front. -/
def codeEscape (c : Char) : List Char := ['\\', 'u', '\x7b'] ++ hexDigits c.toNat ++ ['\x7d']

/-- How a character is written between two `quote` marks. -/
def quotedBody (quote c : Char) : List Char :=
  match c with
  | '\x00' => ['\\', '0']
  | '\t' => ['\\', 't']
  | '\r' => ['\\', 'r']
  | '\n' => ['\\', 'n']
  | '\\' => ['\\', '\\']
  | c =>
    if c = quote then ['\\', c]
    else if Unicode.isCombining c then codeEscape c
    else if Unicode.isPrintable c then [c]
    else codeEscape c

/-- A text in double quotes. -/
def quotedString (text : String) : String :=
  String.ofList ('\"' :: text.toList.flatMap (quotedBody '\"') ++ ['\"'])

/-- A character in single quotes. -/
def quotedChar (c : Char) : String := String.ofList ('\'' :: quotedBody '\'' c ++ ['\''])

/-- A list of texts, each in double quotes, between brackets. -/
def quotedList (texts : List String) : String :=
  "[" ++ ", ".intercalate (texts.map quotedString) ++ "]"

/-- How a character is written in plain text: the usual control characters, the backslash and both
quotes with a backslash, the other plain characters as they are, and all else by code. -/
def plainEscape (c : Char) : List Char :=
  match c with
  | '\t' => ['\\', 't']
  | '\r' => ['\\', 'r']
  | '\n' => ['\\', 'n']
  | '\\' => ['\\', '\\']
  | '\'' => ['\\', '\'']
  | '\"' => ['\\', '\"']
  | c => if 0x20 ≤ c.toNat ∧ c.toNat ≤ 0x7E then [c] else codeEscape c

end GrammarLang.Text

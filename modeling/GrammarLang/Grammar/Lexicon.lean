import GrammarLang.Grammar.Literal

/-! # The words of the grammar notation

The rules that a grammar text is scanned with, in three modes: the notation proper, the inside of a
regular expression between slashes, and the inside of code between braces. **`Lexicon.table`** is
the compiled rule table. -/

namespace GrammarLang.Grammar.Lexicon

open GrammarLang.Scan

/-- The mode inside a regular expression. -/
def regexMode : String := "regex"

/-- The mode inside code. -/
def codeMode : String := "code"

/-- The keyword that starts a grammar. -/
def keyword : String := "grammar"

/-- Names. -/
def ident : String := "ident"

/-- Decimal numbers. -/
def number : String := "number"

/-- String literals. -/
def string : String := "string"

/-- A character of a regular expression that means nothing but itself. -/
def regexChar : String := "regex_char"

/-- An escape in a regular expression. -/
def regexEscape : String := "regex_escape"

/-- A counted repetition in a regular expression. -/
def regexRepeat : String := "regex_repeat"

/-- Flags in a regular expression that hold for what follows. -/
def regexInlineFlags : String := "regex_inline_flags"

/-- The opening of a group with flags or a name in a regular expression. -/
def regexGroupOpen : String := "regex_group_open"

/-- The signs of the notation. -/
def signs : List String :=
  ["\x7b", "\x7d", "(", ")", "(?=", "(?!", "|", ":", ";", "=", "~", "?", "*", "+", ",", "/"]

/-- The signs of regular expressions. -/
def regexSigns : List String :=
  ["/", "|", "(", ")", "(?=", "(?!", "(?<=", "(?<!", "[", "[^", "]", "-", "*", "+", "?", "^", "$",
    "."]

/-- A rule for a literal that is named by itself. -/
def sign (mode text : String) : RuleSpec where
  name := text
  matcher := .literal text
  mode := mode

/-- A rule for a regular expression. -/
def pattern (mode name regex : String) : RuleSpec where
  name := name
  matcher := .regex regex
  mode := mode

/-- The rules of the notation proper. -/
def mainRules : List RuleSpec :=
  [{ pattern defaultMode "whitespace" "\\s+" with ignored := true },
   { pattern defaultMode "line_comment" "//[^\\n]*" with ignored := true },
   { pattern defaultMode "block_comment" "/\\*(?s:.*?)\\*/" with ignored := true },
   sign defaultMode keyword,
   pattern defaultMode ident "[a-zA-Z_][a-zA-Z0-9_]*",
   { pattern defaultMode number "[0-9]+" with decoder := some numberValue },
   { pattern defaultMode string "\"(?:[^\"\\\\]|\\\\(?s:.))*\"|'(?:[^'\\\\]|\\\\(?s:.))*'" with
      decoder := some stringValue }]
    ++ signs.map (sign defaultMode)

/-- The rules inside a regular expression. -/
def regexRules : List RuleSpec :=
  regexSigns.map (sign regexMode) ++
    [pattern regexMode regexEscape
      ("\\\\(?:x[0-9a-fA-F]\x7b2\x7d|x\\\x7b[0-9a-fA-F]+\\\x7d|u[0-9a-fA-F]\x7b4\x7d|" ++
        "u\\\x7b[0-9a-fA-F]+\\\x7d|[pP]\\\x7b[^\x7d]*\\\x7d|(?s:.))"),
     pattern regexMode regexRepeat "\\\x7b[0-9]+(?:,[0-9]*)?\\\x7d",
     pattern regexMode regexInlineFlags "\\(\\?[a-zA-Z-]+\\)",
     pattern regexMode regexGroupOpen "\\(\\?(?:[a-zA-Z-]*:|P?<[a-zA-Z_][a-zA-Z0-9_]*>)",
     pattern regexMode regexChar "[^\\\\/|()\\[\\]\\-*+?^$.]"]

/-- The rules inside code. -/
def codeRules : List RuleSpec :=
  [sign codeMode "\x7b",
   sign codeMode "\x7d",
   sign codeMode "/",
   pattern codeMode "code_text" "[^\x7b\x7d\"'/]+",
   pattern codeMode "code_string"
    ("\"(?:[^\"\\\\]|\\\\(?s:.))*\"|" ++
      "'(?:[^'\\\\\\n]|\\\\(?:x[0-9a-fA-F]\x7b2\x7d|u\\\x7b[0-9a-fA-F]+\\\x7d|.))'"),
   pattern codeMode "code_quote" "[\"']",
   pattern codeMode "code_comment" "//[^\\n]*|/\\*(?s:.*?)\\*/"]

/-- Every rule, in order. -/
def rules : List RuleSpec := mainRules ++ regexRules ++ codeRules

/-- The compiled rules. -/
def table : Except Error RuleTable := RuleTable.compile "grammar" true rules

end GrammarLang.Grammar.Lexicon

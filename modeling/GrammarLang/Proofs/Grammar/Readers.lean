import GrammarLang.Grammar.Lexicon
import GrammarLang.Proofs.Grammar.CodeEnd
import GrammarLang.Proofs.Regex.Runs

/-! # The patterns of the notation, read by hand

The expressions that the patterns of the notation are compiled to, and what each of them matches,
said without expressions: a comment is matched up to where `commentEnd?` finds its end, a string up
to where `stringEnd?` does, and a name, a number or a stretch of code as far as its characters
go. -/

namespace GrammarLang.Grammar.Lexicon

open GrammarLang.Regex GrammarLang.Unicode

/-! ## Sets of characters -/

/-- Blanks. -/
def blanks : Ranges :=
  [(9, 13), (32, 32), (133, 133), (160, 160), (5760, 5760), (8192, 8202), (8232, 8233),
    (8239, 8239), (8287, 8287), (12288, 12288)]

/-- All characters but the end of a line. -/
def lineChars : Ranges := [(0, 9), (11, 1114111)]

/-- All characters. -/
def anyChars : Ranges := [(0, 1114111)]

/-- The first characters of names. -/
def nameStarts : Ranges := [(65, 90), (95, 95), (97, 122)]

/-- The characters of names. -/
def nameChars : Ranges := [(48, 57), (65, 90), (95, 95), (97, 122)]

/-- Decimal digits. -/
def digits : Ranges := [(48, 57)]

/-- Hexadecimal digits. -/
def hexDigits : Ranges := [(48, 57), (65, 70), (97, 102)]

/-- The characters between double quotes that mean themselves. -/
def doubleQuoted : Ranges := [(0, 33), (35, 91), (93, 1114111)]

/-- The characters between single quotes that mean themselves. -/
def singleQuoted : Ranges := [(0, 38), (40, 91), (93, 1114111)]

/-- The characters that a character literal can consist of. -/
def literalChars : Ranges := [(0, 9), (11, 38), (40, 91), (93, 1114111)]

/-- The characters that mean nothing in code. -/
def codeChars : Ranges := [(0, 33), (35, 38), (40, 46), (48, 122), (124, 124), (126, 1114111)]

theorem toNat_le (c : Char) : c.toNat ≤ 1114111 := by
  have hvalid := c.valid
  simp only [UInt32.isValidChar, Nat.isValidChar] at hvalid
  show c.val.toNat ≤ _
  omega

theorem lineChars_contains (c : Char) : lineChars.contains c.toNat = decide (c ≠ '\n') := by
  have hle := toNat_le c
  rw [Bool.eq_iff_iff, decide_eq_true_eq, ne_eq, ← Char.toNat_inj, show '\n'.toNat = 10 from rfl]
  simp only [lineChars, Ranges.contains_cons, Ranges.contains_nil, Bool.or_false]
  grind

theorem anyChars_contains (c : Char) : anyChars.contains c.toNat = true := by
  have hle := toNat_le c
  simp only [anyChars, Ranges.contains_cons, Ranges.contains_nil, Bool.or_false]
  grind

theorem doubleQuoted_contains (c : Char) :
    doubleQuoted.contains c.toNat = (c ≠ '\"' && c ≠ '\\' : Bool) := by
  have hle := toNat_le c
  rw [Bool.eq_iff_iff, Bool.and_eq_true, decide_eq_true_eq, decide_eq_true_eq, ne_eq, ne_eq,
    ← Char.toNat_inj, ← Char.toNat_inj, show '\"'.toNat = 34 from rfl, show '\\'.toNat = 92 from rfl]
  simp only [doubleQuoted, Ranges.contains_cons, Ranges.contains_nil, Bool.or_false]
  grind

theorem singleQuoted_contains (c : Char) :
    singleQuoted.contains c.toNat = (c ≠ '\'' && c ≠ '\\' : Bool) := by
  have hle := toNat_le c
  rw [Bool.eq_iff_iff, Bool.and_eq_true, decide_eq_true_eq, decide_eq_true_eq, ne_eq, ne_eq,
    ← Char.toNat_inj, ← Char.toNat_inj, show '\''.toNat = 39 from rfl, show '\\'.toNat = 92 from rfl]
  simp only [singleQuoted, Ranges.contains_cons, Ranges.contains_nil, Bool.or_false]
  grind

theorem literalChars_contains (c : Char) :
    literalChars.contains c.toNat = (c ≠ '\'' && c ≠ '\\' && c ≠ '\n' : Bool) := by
  have hle := toNat_le c
  rw [Bool.eq_iff_iff, Bool.and_eq_true, Bool.and_eq_true, decide_eq_true_eq, decide_eq_true_eq,
    decide_eq_true_eq, ne_eq, ne_eq, ne_eq, ← Char.toNat_inj, ← Char.toNat_inj, ← Char.toNat_inj,
    show '\''.toNat = 39 from rfl, show '\\'.toNat = 92 from rfl, show '\n'.toNat = 10 from rfl]
  simp only [literalChars, Ranges.contains_cons, Ranges.contains_nil, Bool.or_false]
  grind

theorem codeChars_contains (c : Char) : codeChars.contains c.toNat =
    (c ≠ '\"' && c ≠ '\'' && c ≠ '/' && c ≠ '\x7b' && c ≠ '\x7d' : Bool) := by
  have hle := toNat_le c
  rw [Bool.eq_iff_iff]
  simp only [Bool.and_eq_true, decide_eq_true_eq, ne_eq, ← Char.toNat_inj,
    show '\"'.toNat = 34 from rfl, show '\''.toNat = 39 from rfl, show '/'.toNat = 47 from rfl,
    show '\x7b'.toNat = 123 from rfl, show '\x7d'.toNat = 125 from rfl]
  simp only [codeChars, Ranges.contains_cons, Ranges.contains_nil, Bool.or_false]
  grind

theorem hexDigits_contains (c : Char) : hexDigits.contains c.toNat = Text.isHexDigit c := by
  rw [Bool.eq_iff_iff]
  simp only [Text.isHexDigit, Text.hexValue?, Char.le_def, UInt32.le_iff_toNat_le]
  show hexDigits.contains c.val.toNat = true ↔ _
  simp [hexDigits, Ranges.contains_cons]
  split <;> [skip; split <;> [skip; split]]
  all_goals
    simp
    omega

/-! ## Patterns -/

/-- Some characters of a set, at least `least` of them and as many as there are. -/
def loopOf (set : Ranges) (least : Nat) : Expr := .repeated (.char set) least none true

/-- A given text. -/
def textOf (text : String) : Expr := .text (text.toList.map .char)

/-- A line comment. -/
def lineComment : Expr := .seq (textOf "//") (loopOf lineChars 0)

/-- A block comment. -/
def blockComment : Expr :=
  .seq (textOf "/*") (.seq (.repeated (.char anyChars) 0 none false) (textOf "*/"))

/-- A string between given quotes, in which some characters mean themselves. -/
def quoted (quote : String) (plain : Ranges) : Expr :=
  .seq (textOf quote)
    (.seq
      (.repeated (.alt (.char plain) (.seq (textOf "\\") (.char anyChars))) 0 none true)
      (textOf quote))

/-- Hexadecimal digits in braces. -/
def bracedCode : Expr := .seq (loopOf hexDigits 1) (textOf "\x7d")

/-- A character literal. -/
def charLiteral : Expr :=
  .seq (textOf "'")
    (.seq
      (.alt (.char literalChars)
        (.seq (textOf "\\")
          (.alt (.seq (textOf "x") (.repeated (.char hexDigits) 2 (some 2) true))
            (.alt (.seq (textOf "u\x7b") bracedCode) (.char lineChars)))))
      (textOf "'"))

/-- What a rule of the notation matches, by its name. A name that stands for no pattern is matched
as it is. -/
def bodyOf (name : String) : Expr :=
  if name = "whitespace" then loopOf blanks 1
  else if name = "line_comment" then lineComment
  else if name = "block_comment" then blockComment
  else if name = ident then .seq (.char nameStarts) (loopOf nameChars 0)
  else if name = number then loopOf digits 1
  else if name = string then .alt (quoted "\"" doubleQuoted) (quoted "'" singleQuoted)
  else if name = "code_text" then loopOf codeChars 1
  else if name = "code_string" then .alt (quoted "\"" doubleQuoted) charLiteral
  else if name = "code_quote" then .char [(34, 34), (39, 39)]
  else if name = "code_comment" then .alt lineComment blockComment
  else if name = regexChar then
    .char [(0, 35), (37, 39), (44, 44), (48, 62), (64, 90), (95, 123), (125, 1114111)]
  else if name = regexEscape then
    .seq (textOf "\\")
      (.alt (.seq (textOf "x") (.repeated (.char hexDigits) 2 (some 2) true))
        (.alt (.seq (textOf "x\x7b") bracedCode)
          (.alt (.seq (textOf "u") (.repeated (.char hexDigits) 4 (some 4) true))
            (.alt (.seq (textOf "u\x7b") bracedCode)
              (.alt
                (.seq (.char [(80, 80), (112, 112)])
                  (.seq (textOf "\x7b")
                    (.seq (loopOf [(0, 124), (126, 1114111)] 0) (textOf "\x7d"))))
                (.char anyChars))))))
  else if name = regexRepeat then
    .seq (textOf "\x7b")
      (.seq (loopOf digits 1)
        (.seq (.repeated (.seq (textOf ",") (loopOf digits 0)) 0 (some 1) true) (textOf "\x7d")))
  else if name = regexInlineFlags then
    .seq (textOf "(?") (.seq (loopOf [(45, 45), (65, 90), (97, 122)] 1) (textOf ")"))
  else if name = regexGroupOpen then
    .seq (textOf "(?")
      (.alt (.seq (loopOf [(45, 45), (65, 90), (97, 122)] 0) (textOf ":"))
        (.seq (.repeated (textOf "P") 0 (some 1) true)
          (.seq (textOf "<") (.seq (.char nameStarts) (.seq (loopOf nameChars 0) (textOf ">"))))))
  else textOf name

/-! ## What the patterns match -/

theorem rests_textOf (text : String) (rest : List Char) :
    (textOf text).rests rest = (Letter.behind? (text.toList.map .char) rest).toList :=
  Expr.rests_text _ _

theorem first?_textOf (text : String) (rest : List Char) :
    (textOf text).first? rest = Letter.behind? (text.toList.map .char) rest := Expr.first?_text _ _

theorem first?_textOf_seq (text : String) (second : Expr) (rest : List Char) :
    (Expr.seq (textOf text) second).first? rest =
      (Letter.behind? (text.toList.map .char) rest).bind second.first? := Expr.first?_text_seq _ _ _

theorem first?_lineComment (text : List Char) :
    lineComment.first? text =
      (Letter.behind? [.char '/', .char '/'] text).map (List.dropWhile (· ≠ '\n')) := by
  rw [lineComment, first?_textOf_seq]
  show (Letter.behind? [.char '/', .char '/'] text).bind _ = _
  cases Letter.behind? [.char '/', .char '/'] text with
  | none => rfl
  | some rest => exact Expr.first?_loop lineChars_contains rest

/-- The end of a block comment is looked for from left to right. -/
theorem findSome?_runs_commentEnd? (text : List Char) :
    (runs (fun _ => true) text).findSome? (textOf "*/").first? = commentEnd? text := by
  fun_induction commentEnd? text with
  | case1 cs => simp [runs, first?_textOf, Letter.behind?_cons_cons, Letter.behind?]
  | case2 c cs hends ih =>
    rw [runs, if_pos rfl, List.findSome?_cons, ih]
    have hnone : (textOf "*/").first? (c :: cs) = none := by
      rw [first?_textOf]
      show Letter.behind? [.char '*', .char '/'] (c :: cs) = none
      cases cs with
      | nil => simp [Letter.behind?]
      | cons d ds =>
        rw [Letter.behind?_cons_cons, Letter.behind?_cons_cons, ite_eq_right_iff]
        rintro rfl
        rw [ite_eq_right_iff]
        rintro rfl
        exact (hends ds rfl rfl).elim
    rw [hnone]
  | case3 => simp [runs, first?_textOf, Letter.behind?]

theorem first?_blockComment (text : List Char) :
    blockComment.first? text =
      (Letter.behind? [.char '/', .char '*'] text).bind commentEnd? := by
  rw [blockComment, first?_textOf_seq]
  show (Letter.behind? [.char '/', .char '*'] text).bind _ = _
  congr 1
  funext rest
  rw [Expr.first?_seq, Expr.rests_loop anyChars_contains, if_neg Bool.false_ne_true, List.drop_zero]
  exact findSome?_runs_commentEnd? rest

/-- The text behind one character of a string, which a backslash takes the next one with. -/
def quotedStep (quote : Char) : List Char → Option (List Char)
  | [] => none
  | c :: cs =>
    if c = quote then none
    else if c = '\\' then cs.head?.map fun _ => cs.tail
    else some cs

/-- The places in a string are passed one by one. -/
theorem rests_quotedChar {quote : Char} {plain : Ranges}
    (hplain : ∀ c : Char, plain.contains c.toNat = (c ≠ quote && c ≠ '\\' : Bool))
    (hquote : quote ≠ '\\') (text : List Char) :
    (Expr.alt (.char plain) (.seq (textOf "\\") (.char anyChars))).rests text =
      (quotedStep quote text).toList := by
  have hslash : ∀ text, (textOf "\\").rests text = (Letter.behind? [.char '\\'] text).toList :=
    rests_textOf _
  cases text with
  | nil => simp [hslash, Letter.behind?, quotedStep]
  | cons c cs =>
    rw [Expr.rests_alt, Expr.rests_char_cons, Expr.rests_seq, hslash, hplain, Letter.behind?_cons_cons]
    by_cases hc : c = quote
    · simp [quotedStep, hc, hquote]
    · by_cases hd : c = '\\'
      · cases cs with
        | nil => simp [quotedStep, hd, hquote.symm, Letter.behind?]
        | cons d ds => simp [quotedStep, hd, hquote.symm, Letter.behind?, anyChars_contains]
      · simp [quotedStep, hc, hd]

/-- The closing quote is found at the last place only, as the loop passes every other one. -/
theorem findSome?_quoted {quote : Char} (hquote : quote ≠ '\\') (text : List Char) :
    (stridesFrom List.length (quotedStep quote) none text).reverse.findSome?
      (Letter.behind? [.char quote]) = stringEnd? quote text := by
  have hstep : ∀ text next : List Char, quotedStep quote text = some next →
      next.length < text.length → Letter.behind? [.char quote] text = none →
      (stridesFrom List.length (quotedStep quote) none text).reverse.findSome?
          (Letter.behind? [.char quote]) =
        (stridesFrom List.length (quotedStep quote) none next).reverse.findSome?
          (Letter.behind? [.char quote]) := by
    intro text next hnext hless hnone
    rw [stridesFrom, if_neg (by simp), hnext]
    simp [hless, hnone]
  fun_induction stringEnd? quote text with
  | case1 => simp [stridesFrom, quotedStep, Letter.behind?]
  | case2 => simp [stridesFrom, quotedStep, Letter.behind?]
  | case3 c hc =>
    by_cases hd : c = '\\'
    · simp [stridesFrom, quotedStep, Letter.behind?, hd, hquote.symm]
    · simp [stridesFrom, quotedStep, Letter.behind?, hc, hd]
  | case4 d cs => simp [stridesFrom, quotedStep, Letter.behind?]
  | case5 d cs hc ih =>
    rw [hstep _ cs, ih]
    · simp [quotedStep, hquote.symm]
    · simp only [List.length_cons]
      omega
    · simp [Letter.behind?, hquote.symm]
  | case6 c d cs hc hd ih =>
    rw [hstep _ (d :: cs), ih]
    · simp [quotedStep, hc, hd]
    · simp
    · simp [Letter.behind?, hc]

theorem first?_quoted {quote : String} {mark : Char} {plain : Ranges}
    (hmark : quote.toList = [mark])
    (hplain : ∀ c : Char, plain.contains c.toNat = (c ≠ mark && c ≠ '\\' : Bool))
    (hslash : mark ≠ '\\') (text : List Char) :
    (quoted quote plain).first? text =
      (Letter.behind? [.char mark] text).bind (stringEnd? mark) := by
  rw [quoted, first?_textOf_seq, hmark]
  show (Letter.behind? [.char mark] text).bind _ = _
  congr 1
  funext rest
  rw [Expr.first?_seq, Expr.rests_repeated, if_neg (by simp [Expr.isSingle]), rounds, exactRounds,
    follow_singleton, anyRounds_eq_reverse (rests_quotedChar hplain hslash),
    ← findSome?_quoted hslash]
  congr 1
  funext rest
  rw [first?_textOf, hmark]
  rfl

/-- A string literal goes on to the quote that it starts with. -/
theorem first?_string (text : List Char) :
    (bodyOf string).first? text =
      ((Letter.behind? [.char '\"'] text).bind (stringEnd? '\"')).or
        ((Letter.behind? [.char '\''] text).bind (stringEnd? '\'')) := by
  rw [show bodyOf string = .alt (quoted "\"" doubleQuoted) (quoted "'" singleQuoted) from rfl,
    Expr.first?_alt,
    first?_quoted (show "\"".toList = ['\"'] from rfl) doubleQuoted_contains (by decide),
    first?_quoted (show "'".toList = ['\''] from rfl) singleQuoted_contains (by decide)]

/-! ### Character literals -/

/-- The text behind a single quote, if it comes next, as the pattern finds it. -/
theorem first?_behindQuote? (text : List Char) : (textOf "'").first? text = behindQuote? text := by
  rw [first?_textOf]
  show Letter.behind? [.char '\''] text = _
  cases text with
  | nil => rfl
  | cons c cs =>
    rw [Letter.behind?_cons_cons, behindQuote?.eq_def]
    split
    · rename_i heq
      subst heq
      rfl
    · rename_i hne
      split
      · rename_i heq
        exact absurd (List.cons.inj heq).1 hne
      · rfl

/-- Two characters of a set are passed one after the other. -/
theorem rests_twice {set : Ranges} {keep : Char → Bool}
    (hset : ∀ c : Char, set.contains c.toNat = keep c) (text : List Char) :
    (Expr.repeated (.char set) 2 (some 2) true).rests text =
      match text with
      | c :: d :: cs => if keep c && keep d then [cs] else []
      | _ => [] := by
  rw [Expr.rests_repeated, if_pos (by rfl), strides]
  rcases text with _ | ⟨c, _ | ⟨d, cs⟩⟩
  · simp [stridesFrom]
  · cases hc : keep c <;> simp [stridesFrom, Expr.rests_char_cons, hset, hc]
  · cases hc : keep c <;> cases hd : keep d <;>
      simp [stridesFrom, Expr.rests_char_cons, hset, hc, hd]

theorem findSome?_byteEscape (text : List Char) :
    ((Expr.seq (textOf "x") (.repeated (.char hexDigits) 2 (some 2) true)).rests text).findSome?
      (textOf "'").first? = byteEscapeEnd? text := by
  rw [Expr.rests_seq, findSome?_follow, rests_textOf]
  show (Letter.behind? [.char 'x'] text).toList.findSome? _ = _
  cases text with
  | nil => rfl
  | cons x text =>
    rw [Letter.behind?_cons_cons]
    by_cases hx : x = 'x'
    · simp only [hx, if_true, Letter.behind?, Option.toList_some, List.findSome?_singleton,
        rests_twice hexDigits_contains]
      rcases text with _ | ⟨c, _ | ⟨d, cs⟩⟩
      · rfl
      · rfl
      · cases hc : Text.isHexDigit c <;> cases hd : Text.isHexDigit d <;>
          simp [byteEscapeEnd?, hc, hd, first?_behindQuote?]
    · rw [if_neg hx]
      rcases text with _ | ⟨c, _ | ⟨d, cs⟩⟩
      · rfl
      · rfl
      · simp [byteEscapeEnd?, hx]

/-- The text behind a closing brace and a single quote, as the pattern finds it. -/
theorem findSome?_behindBrace (text : List Char) :
    ((textOf "\x7d").rests text).findSome? (textOf "'").first? = behindBrace? text := by
  rw [rests_textOf]
  show (Letter.behind? [.char '\x7d'] text).toList.findSome? _ = _
  cases text with
  | nil => rfl
  | cons c cs =>
    rw [Letter.behind?_cons_cons, behindBrace?.eq_def]
    split
    · rename_i heq
      subst heq
      simp [Letter.behind?, first?_behindQuote?]
    · rename_i hne
      split
      · rename_i heq
        exact absurd (List.cons.inj heq).1 hne
      · rfl

theorem findSome?_bracedCode (c : Char) (cs : List Char) :
    (bracedCode.rests (c :: cs)).findSome? (textOf "'").first? =
      if Text.isHexDigit c then behindBrace? (cs.dropWhile Text.isHexDigit) else none := by
  have hnone : ∀ c cs, Text.isHexDigit c = true → behindBrace? (c :: cs) = none := by
    intro c cs hc
    rw [behindBrace?.eq_def]
    split
    · rename_i heq
      cases heq
      contradiction
    · rfl
  rw [bracedCode, Expr.rests_seq, findSome?_follow, loopOf, Expr.rests_loop hexDigits_contains,
    if_pos rfl, runs, List.drop_one, List.tail_cons]
  simp only [findSome?_behindBrace]
  split
  · exact findSome?_reverse_runs hnone cs
  · rfl

theorem findSome?_codeEscape (text : List Char) :
    ((Expr.seq (textOf "u\x7b") bracedCode).rests text).findSome? (textOf "'").first? =
      codeEscapeEnd? text := by
  rw [Expr.rests_seq, findSome?_follow, rests_textOf]
  show (Letter.behind? [.char 'u', .char '\x7b'] text).toList.findSome? _ = _
  match text with
  | [] => rfl
  | [u] => by_cases hu : u = 'u' <;> simp [hu, Letter.behind?, codeEscapeEnd?]
  | [u, brace] =>
    have hnil : bracedCode.rests [] = [] := by
      simp [bracedCode, loopOf, Expr.rests_loop hexDigits_contains, runs]
    by_cases hu : u = 'u'
    · by_cases hbrace : brace = '\x7b'
      · simp [hu, hbrace, Letter.behind?, hnil, codeEscapeEnd?]
      · simp [hu, hbrace, Letter.behind?, codeEscapeEnd?]
    · simp [hu, Letter.behind?, codeEscapeEnd?]
  | u :: brace :: c :: cs =>
    rw [Letter.behind?_cons_cons, Letter.behind?_cons_cons, codeEscapeEnd?]
    by_cases hu : u = 'u'
    · by_cases hbrace : brace = '\x7b'
      · simp [hu, hbrace, Letter.behind?, findSome?_bracedCode]
      · simp [hu, hbrace]
    · simp [hu]

theorem findSome?_plainEscape (text : List Char) :
    ((Expr.char lineChars).rests text).findSome? (textOf "'").first? = plainEscapeEnd? text := by
  cases text with
  | nil => rfl
  | cons c cs =>
    rw [Expr.rests_char_cons, lineChars_contains, plainEscapeEnd?]
    by_cases hc : c = '\n' <;> simp [hc, first?_behindQuote?]

theorem first?_charLiteral (text : List Char) :
    charLiteral.first? text = (Letter.behind? [.char '\''] text).bind charEnd? := by
  have hslash : ∀ text, (textOf "\\").rests text = (Letter.behind? [.char '\\'] text).toList :=
    rests_textOf _
  rw [charLiteral, first?_textOf_seq]
  show (Letter.behind? [.char '\''] text).bind _ = _
  congr 1
  funext rest
  rw [Expr.first?_seq, Expr.rests_alt, findSome?_distinct, List.findSome?_append, Expr.rests_seq,
    findSome?_follow, hslash]
  cases rest with
  | nil => simp [Letter.behind?, charEnd?]
  | cons c cs =>
    rw [Expr.rests_char_cons, literalChars_contains, Letter.behind?_cons_cons]
    by_cases hd : c = '\\'
    · subst hd
      simp only [Letter.behind?, charEnd?, if_true, Option.toList_some, List.findSome?_singleton]
      rw [Expr.rests_alt, findSome?_distinct, List.findSome?_append, findSome?_byteEscape,
        Expr.rests_alt, findSome?_distinct, List.findSome?_append, findSome?_codeEscape,
        findSome?_plainEscape]
      simp
    · by_cases hc : c = '\'' ∨ c = '\n'
      · rcases hc with rfl | rfl <;> simp [charEnd?]
      · simp_all [charEnd?, first?_behindQuote?]

/-! ### Rules by name -/

theorem first?_line_comment (text : List Char) :
    (bodyOf "line_comment").first? text =
      (Letter.behind? [.char '/', .char '/'] text).map (List.dropWhile (· ≠ '\n')) :=
  first?_lineComment text

theorem first?_block_comment (text : List Char) :
    (bodyOf "block_comment").first? text =
      (Letter.behind? [.char '/', .char '*'] text).bind commentEnd? :=
  first?_blockComment text

/-- A sign of one character is matched where that comes next. -/
theorem first?_sign {name : String} {c : Char} (hbody : bodyOf name = .text [.char c]) (d : Char)
    (cs : List Char) : (bodyOf name).first? (d :: cs) = if d = c then some cs else none := by
  rw [hbody, Expr.first?_text, Letter.behind?_cons_cons]
  rfl

end GrammarLang.Grammar.Lexicon

import GrammarLang.Text.Digits

/-! # Where code ends

Code between braces goes on up to the brace that closes it, and braces do not count in strings, in
character literals and in comments. The functions here find that brace in a text, character by
character, without a scanner:

* **`stringEnd?`**, **`charEnd?`**, **`commentEnd?`** — the text behind a string, a character literal
  and a comment. Each of them looks for its end in all of the text.
* **`codeRest`** — the text behind the first character of code that is no brace, or behind the string,
  literal or comment that it opens.
* **`codeEnd`** — the text behind the brace that closes code. -/

namespace GrammarLang.Grammar

open GrammarLang.Text

/-- The text behind the quote that closes a string; a backslash takes the next character with it. -/
def stringEnd? (quote : Char) : List Char → Option (List Char)
  | [] => none
  | [c] => if c = quote then some [] else none
  | c :: d :: cs =>
    if c = quote then some (d :: cs)
    else if c = '\\' then stringEnd? quote cs
    else stringEnd? quote (d :: cs)

/-- The text behind a single quote, if that comes next. -/
def behindQuote? : List Char → Option (List Char)
  | '\'' :: cs => some cs
  | _ => none

/-- The text behind two hexadecimal digits and a single quote, with an `x` in front. -/
def byteEscapeEnd? : List Char → Option (List Char)
  | x :: c :: d :: cs =>
    if x = 'x' && isHexDigit c && isHexDigit d then behindQuote? cs else none
  | _ => none

/-- The text behind a closing brace and a single quote, if they come next. -/
def behindBrace? : List Char → Option (List Char)
  | '\x7d' :: cs => behindQuote? cs
  | _ => none

/-- The text behind hexadecimal digits in braces and a single quote, with a `u` in front. -/
def codeEscapeEnd? : List Char → Option (List Char)
  | u :: brace :: c :: cs =>
    if u = 'u' && brace = '\x7b' && isHexDigit c then behindBrace? (cs.dropWhile isHexDigit) else none
  | _ => none

/-- The text behind any character on the line and a single quote. -/
def plainEscapeEnd? : List Char → Option (List Char)
  | c :: cs => if c = '\n' then none else behindQuote? cs
  | [] => none

/-- The text behind the quote that closes a character literal: between the quotes there is one
character or one escape. -/
def charEnd? : List Char → Option (List Char)
  | [] => none
  | c :: cs =>
    if c = '\\' then (byteEscapeEnd? cs).or ((codeEscapeEnd? cs).or (plainEscapeEnd? cs))
    else if c = '\'' ∨ c = '\n' then none
    else behindQuote? cs

/-- The text behind the end of a block comment. -/
def commentEnd? : List Char → Option (List Char)
  | '*' :: '/' :: cs => some cs
  | _ :: cs => commentEnd? cs
  | [] => none

/-- The text behind the first character, which is no brace. A quote or slash that opens something
which is closed later on is left behind together with all of that. -/
def codeRest : List Char → List Char
  | '\"' :: cs => (stringEnd? '\"' cs).getD cs
  | '\'' :: cs => (charEnd? cs).getD cs
  | '/' :: '/' :: cs => cs.dropWhile (· ≠ '\n')
  | '/' :: '*' :: cs => (commentEnd? cs).getD ('*' :: cs)
  | _ :: cs => cs
  | [] => []

theorem stringEnd?_suffix {quote : Char} {text rest : List Char}
    (h : stringEnd? quote text = some rest) : rest <:+ text := by
  fun_induction stringEnd? quote text with
  | case1 => contradiction
  | case2 => cases h; exact List.nil_suffix
  | case3 => contradiction
  | case4 d cs => cases h; exact List.suffix_cons _ _
  | case5 d cs hquote ih => exact (ih h).trans ((List.suffix_cons d cs).trans (List.suffix_cons _ _))
  | case6 c d cs hquote hslash ih => exact (ih h).trans (List.suffix_cons _ _)

theorem length_lt_of_stringEnd? {quote : Char} {text rest : List Char}
    (h : stringEnd? quote text = some rest) : rest.length < text.length := by
  fun_induction stringEnd? quote text with
  | case1 => contradiction
  | case2 => cases h; simp
  | case3 => contradiction
  | case4 d cs => cases h; simp
  | case5 d cs hquote ih => exact Nat.lt_trans (ih h) (by simp only [List.length_cons]; omega)
  | case6 c d cs hquote hslash ih => exact Nat.lt_trans (ih h) (by simp)

theorem behindQuote?_suffix {text rest : List Char} (h : behindQuote? text = some rest) :
    rest <:+ text := by
  unfold behindQuote? at h
  split at h
  · cases h; exact List.suffix_cons _ _
  · contradiction

theorem byteEscapeEnd?_suffix {text rest : List Char} (h : byteEscapeEnd? text = some rest) :
    rest <:+ text := by
  unfold byteEscapeEnd? at h
  split at h
  · split at h
    · rename_i x c d cs _
      exact (behindQuote?_suffix h).trans (List.suffix_append [x, c, d] cs)
    · contradiction
  · contradiction

theorem behindBrace?_suffix {text rest : List Char} (h : behindBrace? text = some rest) :
    rest <:+ text := by
  unfold behindBrace? at h
  split at h
  · exact (behindQuote?_suffix h).trans (List.suffix_cons _ _)
  · contradiction

theorem codeEscapeEnd?_suffix {text rest : List Char} (h : codeEscapeEnd? text = some rest) :
    rest <:+ text := by
  unfold codeEscapeEnd? at h
  split at h
  · split at h
    · rename_i u brace c cs _
      exact (behindBrace?_suffix h).trans
        ((List.dropWhile_suffix _).trans (List.suffix_append [u, brace, c] cs))
    · contradiction
  · contradiction

theorem plainEscapeEnd?_suffix {text rest : List Char} (h : plainEscapeEnd? text = some rest) :
    rest <:+ text := by
  unfold plainEscapeEnd? at h
  split at h
  · split at h
    · contradiction
    · exact (behindQuote?_suffix h).trans (List.suffix_cons _ _)
  · contradiction

theorem charEnd?_suffix {c : Char} {cs rest : List Char} (h : charEnd? (c :: cs) = some rest) :
    rest <:+ cs := by
  unfold charEnd? at h
  split at h
  · contradiction
  · rename_i heq
    cases heq
    split at h
    · rcases Option.or_eq_some_iff.1 h with h | ⟨-, h⟩
      · exact byteEscapeEnd?_suffix h
      · rcases Option.or_eq_some_iff.1 h with h | ⟨-, h⟩
        · exact codeEscapeEnd?_suffix h
        · exact plainEscapeEnd?_suffix h
    · split at h
      · contradiction
      · exact behindQuote?_suffix h

theorem commentEnd?_suffix {text rest : List Char} (h : commentEnd? text = some rest) :
    rest <:+ text := by
  fun_induction commentEnd? text with
  | case1 => cases h; exact List.suffix_append ['*', '/'] _
  | case2 _ _ _ ih => exact (ih h).trans (List.suffix_cons _ _)
  | case3 => contradiction

/-- Behind the first character there is no more than the text without it. -/
theorem codeRest_suffix (c : Char) (cs : List Char) : codeRest (c :: cs) <:+ cs := by
  have hgetD : ∀ {found : Option (List Char)} {text : List Char},
      (∀ rest, found = some rest → rest <:+ text) → found.getD text <:+ text := by
    intro found text h
    cases found with
    | none => exact List.suffix_rfl
    | some rest => exact h rest rfl
  unfold codeRest
  split
  · rename_i heq
    cases heq
    exact hgetD fun rest => stringEnd?_suffix
  · rename_i cs heq
    cases heq
    refine hgetD fun rest h => ?_
    cases cs with
    | nil => contradiction
    | cons c cs => exact (charEnd?_suffix h).trans (List.suffix_cons c cs)
  · rename_i heq
    cases heq
    exact (List.dropWhile_suffix _).trans (List.suffix_cons _ _)
  · rename_i heq
    cases heq
    exact hgetD fun rest h => (commentEnd?_suffix h).trans (List.suffix_cons _ _)
  · rename_i heq
    cases heq
    exact List.suffix_rfl
  · contradiction

/-- The text behind the brace that closes code, where `depth` more braces were opened than closed
before. -/
def codeEnd (depth : Nat) (text : List Char) : Option (List Char) :=
  match text with
  | [] => none
  | '\x7b' :: cs => codeEnd (depth + 1) cs
  | '\x7d' :: cs =>
    match depth with
    | 0 => some cs
    | outer + 1 => codeEnd outer cs
  | c :: cs => codeEnd depth (codeRest (c :: cs))
termination_by text.length
decreasing_by
  · simp
  · simp
  · exact Nat.lt_succ_of_le (codeRest_suffix _ _).length_le

/-- Code, written between braces in front of a text, is read back as it is: the brace behind it is
the one that closes it. -/
def Closes (code behind : List Char) : Prop := codeEnd 0 (code ++ '\x7d' :: behind) = some behind

instance (code behind : List Char) : Decidable (Closes code behind) :=
  inferInstanceAs (Decidable (_ = _))

/-- Code is read back in front of every text. -/
def ClosesAlways (code : List Char) : Prop := ∀ behind, Closes code behind

end GrammarLang.Grammar

import GrammarLang.Proofs.Grammar.QuotedWords

/-! # Where a string literal ends

The rule for string literals takes every escape for two characters; the decoder reads escapes of
several lengths. They come to the closing quote together all the same, as no escape has a quote or a
backslash behind its first character: **`decodeString_of_matchAt`**. The decoder accepts what the rule
matches, or fails at an escape, and the quotes are never to blame.

* **`LiteralError.inEscape`** — the failures that are no matter of the quotes.
* **`BadEscape`** — a text between quotes with an escape in it that stands for nothing. -/

namespace GrammarLang.Grammar

open GrammarLang.Scan GrammarLang.Text

/-! ## Escapes that stand for nothing -/

/-- Whether a failure comes from what is written behind a backslash. The other failures are about the
quotes of a literal. -/
def LiteralError.inEscape : LiteralError → Bool
  | .noOpeningQuote => false
  | .noClosingQuote => false
  | .trailingText => false
  | _ => true

/-- A failure in an escape does not have the message of one about the quotes. -/
theorem LiteralError.message_ne_of_inEscape {error other : LiteralError}
    (h : error.inEscape = true) (hother : other.inEscape = false) :
    error.message ≠ other.message := by
  apply message_ne_of_front
  cases other with
  | noOpeningQuote => cases error <;> first | contradiction | simp [front]
  | noClosingQuote => cases error <;> first | contradiction | simp [front]
  | trailingText => cases error <;> first | contradiction | simp [front]
  | _ => contradiction

theorem inEscape_of_readCode {least most : Nat} (hmost : most ≤ 8) {text : List Char}
    {error : LiteralError} (h : readCode least most text = .error error) : error.inEscape = true := by
  rw [readCode_eq hmost] at h
  split at h
  · cases h
    rfl
  · contradiction

theorem inEscape_of_readPlainCode {count : Nat} (hcount : count ≤ 8)
    {refusal : Nat → LiteralError} (hrefusal : ∀ code, (refusal code).inEscape = true)
    {text : List Char} {error : LiteralError}
    (h : readPlainCode count refusal text = .error error) : error.inEscape = true := by
  rw [readPlainCode] at h
  split at h
  · rename_i hread
    cases h
    exact inEscape_of_readCode hcount hread
  · split at h
    · contradiction
    · cases h
      exact hrefusal _

theorem inEscape_of_readBracedCode {text : List Char} {error : LiteralError}
    (h : readBracedCode text = .error error) : error.inEscape = true := by
  rw [readBracedCode] at h
  split at h
  · rename_i hread
    cases h
    exact inEscape_of_readCode (by decide) hread
  · split at h
    · contradiction
    · cases h
      rfl
  · cases h
    rfl

/-- Where something follows a backslash, that is what cannot be read. -/
theorem inEscape_of_readEscape {d : Char} {ds : List Char} {error : LiteralError}
    (h : readEscape (d :: ds) = .error error) : error.inEscape = true := by
  unfold readEscape at h
  split at h
  · contradiction
  · exact inEscape_of_readPlainCode (by decide) (fun _ => rfl) h
  · exact inEscape_of_readBracedCode h
  · exact inEscape_of_readPlainCode (by decide) (fun _ => rfl) h
  · split at h
    · contradiction
    · cases h
      rfl

/-- The text between two `quote` marks has an escape in it that cannot be read, and only pieces in
front of it. -/
inductive BadEscape (quote : Char) : List Char → LiteralError → Prop
  /-- Something follows a backslash that is no escape. -/
  | here {d : Char} {ds : List Char} {error : LiteralError}
      (unread : readEscape (d :: ds) = .error error) : BadEscape quote ('\\' :: d :: ds) error
  /-- The escape comes behind a piece. -/
  | behind {front rest : List Char} {c : Char} {error : LiteralError} (piece : Piece quote front c)
      (further : BadEscape quote rest error) : BadEscape quote (front ++ rest) error

theorem BadEscape.inEscape {quote : Char} {text : List Char} {error : LiteralError}
    (h : BadEscape quote text error) : error.inEscape = true := by
  induction h with
  | here unread => exact inEscape_of_readEscape unread
  | behind _ _ ih => exact ih

/-! ## Up to the closing quote -/

/-- No text is left of itself when a string has been passed in it. -/
theorem stringEnd?_ne_self (quote : Char) (rest : List Char) : stringEnd? quote rest ≠ some rest :=
  fun h => Nat.lt_irrefl _ (length_lt_of_stringEnd? h)

/-- A string does not end right behind a backslash. -/
theorem stringEnd?_slash_ne {quote : Char} (hslash : '\\' ≠ quote) (rest : List Char) :
    stringEnd? quote ('\\' :: rest) ≠ some rest := by
  cases rest with
  | nil => simp [stringEnd?, hslash]
  | cons d ds =>
    rw [stringEnd?, if_neg hslash, if_pos rfl]
    -- The string would end before it starts.
    intro h
    have hlength := length_lt_of_stringEnd? h
    simp only [List.length_cons] at hlength
    omega

/-- A text is all read up to a `quote` at its end, or up to an escape that cannot be read. -/
def ReadsOut (quote : Char) (text : List Char) : Prop :=
  (∃ value, readBody quote text = .ok (value, [])) ∨
    ∃ error, readBody quote text = .error error ∧ BadEscape quote text error

theorem ReadsOut.append {quote : Char} {front rest : List Char} {c : Char}
    (hpiece : Piece quote front c) (h : ReadsOut quote rest) : ReadsOut quote (front ++ rest) := by
  rw [ReadsOut, readBody_append hpiece]
  obtain ⟨value, hvalue⟩ | ⟨error, herror, hbad⟩ := h
  · exact .inl ⟨c :: value, by rw [hvalue]; rfl⟩
  · exact .inr ⟨error, by rw [herror]; rfl, .behind hpiece hbad⟩

theorem readBody_of_unread (quote : Char) {text : List Char} {error : LiteralError}
    (h : readEscape text = .error error) : readBody quote ('\\' :: text) = .error error := by
  rw [readBody, if_pos rfl]
  split
  · rename_i heq
    rw [h] at heq
    cases heq
    rfl
  · rename_i heq
    rw [h] at heq
    contradiction

/-- **What stands in front of the end of a string is read out.** -/
theorem readsOut_of_stringEnd? {quote : Char} (hquote : quote = '\"' ∨ quote = '\'')
    {text rest : List Char} (h : stringEnd? quote (text ++ rest) = some rest) :
    ReadsOut quote text := by
  have hslash : '\\' ≠ quote := by
    obtain rfl | rfl := hquote <;> decide
  -- A piece does not end the string, so the text behind the piece is in front of the same end.
  have hpassed {front more : List Char} {c : Char} (hpiece : Piece quote front c)
      (h : stringEnd? quote (front ++ more ++ rest) = some rest) :
      stringEnd? quote (more ++ rest) = some rest := by
    rwa [List.append_assoc, stringEnd?_piece hquote hpiece] at h
  have hescaped {cs more : List Char} {meant : Char} (hescape : readEscape cs = .ok (meant, more)) :
      ∃ front, Piece quote ('\\' :: front) meant ∧ cs = front ++ more := by
    obtain ⟨front, hfront, htext⟩ := readEscape_eq_ok_iff.1 hescape
    exact ⟨front, .escape hfront, htext⟩
  fun_induction readBody quote text with
  | case1 => exact absurd h (stringEnd?_ne_self quote rest)
  | case2 cs error hescape =>
    cases cs with
    | nil => exact absurd h (stringEnd?_slash_ne hslash rest)
    | cons d ds => exact .inr ⟨error, readBody_of_unread quote hescape, .here hescape⟩
  | case3 cs meant more hescape error hbody ih =>
    obtain ⟨front, hpiece, rfl⟩ := hescaped hescape
    exact (ih (hpassed hpiece h)).append hpiece
  | case4 cs meant more hescape body after hbody ih =>
    obtain ⟨front, hpiece, rfl⟩ := hescaped hescape
    exact (ih (hpassed hpiece h)).append hpiece
  | case5 cs =>
    -- The string ends at this quote, so there is nothing between it and the end.
    have hend : stringEnd? quote (quote :: (cs ++ rest)) = some (cs ++ rest) := by
      cases cs ++ rest <;> simp [stringEnd?]
    rw [List.cons_append, hend, Option.some.injEq, List.append_left_eq_self] at h
    refine .inl ⟨[], ?_⟩
    rw [h, readBody, if_neg hslash.symm, if_pos rfl]
  | case6 c cs hplain hopen error hbody ih =>
    have hpiece : Piece quote [c] c := .plain hopen hplain
    exact (ih (hpassed hpiece h)).append hpiece
  | case7 c cs hplain hopen body after hbody ih =>
    have hpiece : Piece quote [c] c := .plain hopen hplain
    exact (ih (hpassed hpiece h)).append hpiece

/-! ## Literals -/

variable {table : RuleTable}

/-- What the rule for string literals matches is a quote, and a text behind it that a string with the
same quote ends at. -/
theorem exists_stringEnd? (h : Lexicon.table = .ok table) {rule : Rule} (hmem : rule ∈ table.rules)
    (hname : rule.name = Lexicon.string) {text : List Char} {count : Nat}
    (hmatch : rule.matchAt (.start text) = .chars count) :
    ∃ quote body rest, (quote = '\"' ∨ quote = '\'') ∧ text.take count = quote :: body ∧
      stringEnd? quote (body ++ rest) = some rest := by
  have hlength := Rule.matchLength?_eq_some_iff.2 hmatch
  rw [Lexicon.matchLength?_eq h hmem (by rw [hname]; decide), hname, Regex.Expr.takes?] at hlength
  split at hlength
  · contradiction
  · rename_i rest hfirst
    -- Whichever of the quotes comes first, the string ends where the match does.
    have hends : ∃ quote cs, (quote = '\"' ∨ quote = '\'') ∧ text = quote :: cs ∧
        stringEnd? quote cs = some rest := by
      have hquoted {quote : Char} (h : (Regex.Letter.behind? [.char quote] text).bind
          (stringEnd? quote) = some rest) :
          ∃ cs, text = quote :: cs ∧ stringEnd? quote cs = some rest := by
        obtain ⟨cs, hcs, hend⟩ := Option.bind_eq_some_iff.1 h
        exact ⟨cs, (Regex.Letter.behind?_eq_some_iff [quote]).1 hcs, hend⟩
      rw [Lexicon.first?_string, Option.or_eq_some_iff] at hfirst
      obtain hdouble | ⟨-, hsingle⟩ := hfirst
      · obtain ⟨cs, htext, hend⟩ := hquoted hdouble
        exact ⟨_, cs, .inl rfl, htext, hend⟩
      · obtain ⟨cs, htext, hend⟩ := hquoted hsingle
        exact ⟨_, cs, .inr rfl, htext, hend⟩
    obtain ⟨quote, cs, hquote, rfl, hend⟩ := hends
    obtain ⟨body, rfl⟩ := stringEnd?_suffix hend
    split at hlength
    · contradiction
    · cases hlength
      refine ⟨quote, body, rest, hquote, ?_, hend⟩
      rw [← List.cons_append]
      exact List.take_left' (by simp only [List.length_cons, List.length_append]; omega)

/-- **The rule and the decoder agree on where a literal ends.** What the rule for string literals
matches stands for a text, or has an escape in it that cannot be read and fails for that alone: the
decoder never misses a quote of it, and finds nothing behind the closing one. -/
theorem decodeString_of_matchAt (h : Lexicon.table = .ok table) {rule : Rule}
    (hmem : rule ∈ table.rules) (hname : rule.name = Lexicon.string) {text : List Char} {count : Nat}
    (hmatch : rule.matchAt (.start text) = .chars count) :
    ((∃ value, decodeString (text.take count) = .ok value ∧
        rule.evaluate (String.ofList (text.take count)) = .ok (.text (String.ofList value))) ∨
      ∃ error quote body, decodeString (text.take count) = .error error ∧
        rule.evaluate (String.ofList (text.take count)) = .error error.message ∧
        error.inEscape = true ∧ (quote = '\"' ∨ quote = '\'') ∧ text.take count = quote :: body ∧
        BadEscape quote body error) ∧
    ∀ error ∈ [LiteralError.noOpeningQuote, .noClosingQuote, .trailingText],
      decodeString (text.take count) ≠ .error error ∧
        rule.evaluate (String.ofList (text.take count)) ≠ .error error.message := by
  obtain ⟨quote, body, rest, hquote, hliteral, hend⟩ := exists_stringEnd? h hmem hname hmatch
  rw [hliteral]
  obtain ⟨value, hread⟩ | ⟨error, hread, hbad⟩ := readsOut_of_stringEnd? hquote hend
  · have hdecode : decodeString (quote :: body) = .ok value := by
      simp only [decodeString, if_pos hquote, hread]
    have hevaluate : rule.evaluate (String.ofList (quote :: body)) =
        .ok (.text (String.ofList value)) := by
      simp only [evaluate_string h hmem hname, stringValue, String.toList_ofList, hdecode]
    rw [hdecode, hevaluate]
    exact ⟨.inl ⟨value, rfl, rfl⟩, by simp⟩
  · have hdecode : decodeString (quote :: body) = .error error := by
      simp only [decodeString, if_pos hquote, hread]
    have hevaluate : rule.evaluate (String.ofList (quote :: body)) = .error error.message := by
      simp only [evaluate_string h hmem hname, stringValue, String.toList_ofList, hdecode]
    rw [hdecode, hevaluate]
    refine ⟨.inr ⟨error, quote, body, rfl, rfl, hbad.inEscape, hquote, rfl, hbad⟩,
      fun other hother => ?_⟩
    -- An error with an escape and one with a quote do not even read the same.
    have hquotes : other.inEscape = false := by
      simp only [List.mem_cons, List.not_mem_nil, or_false] at hother
      rcases hother with rfl | rfl | rfl <;> rfl
    have hmessage := LiteralError.message_ne_of_inEscape hbad.inEscape hquotes
    refine ⟨fun heq => ?_, fun heq => hmessage (Except.error.inj heq)⟩
    rw [Except.error.inj heq] at hmessage
    exact hmessage rfl

/-- Behind an escape by code with a digit too few, the closing quote is found by both. -/
theorem decodeString_of_matchAt_short_code :
    let text := "\"\\x4\"z".toList
    ∃ rule ∈ Lexicon.words.rules, rule.name = Lexicon.string ∧
      rule.matchAt (.start text) = .chars 5 ∧
      ∃ error quote body, decodeString (text.take 5) = .error error ∧
        rule.evaluate (String.ofList (text.take 5)) = .error error.message ∧
        text.take 5 = quote :: body ∧ BadEscape quote body error := by
  intro text
  have hmem : Lexicon.words.rules[6] ∈ Lexicon.words.rules := List.getElem_mem _
  have hlength : Lexicon.words.rules[6].matchLength? text = some 5 := by
    rw [Lexicon.matchLength?_eq Lexicon.table_eq_words hmem (by decide)]
    have hfirst : (Lexicon.bodyOf Lexicon.string).first? text = some ['z'] := by
      rw [Lexicon.first?_string]
      decide
    have hfront : "\"\\x4\"".toList ≠ [] := by decide
    exact takes?_append_iff hfront hfirst
  have hmatch := Rule.matchLength?_eq_some_iff.1 hlength
  obtain ⟨⟨value, hvalue, -⟩ | ⟨error, quote, body, herror, hevaluate, -, -, htext, hbad⟩, -⟩ :=
    decodeString_of_matchAt Lexicon.table_eq_words hmem rfl hmatch
  · have hread : readBody '\"' ['\\', 'x', '4', '\"'] = .error .missingDigits :=
      readBody_of_unread _ rfl
    simp [text, decodeString, hread] at hvalue
  · exact ⟨_, hmem, rfl, hmatch, error, quote, body, herror, hevaluate, htext, hbad⟩

end GrammarLang.Grammar

import GrammarLang.Proofs.Grammar.Literals

/-! # String literals in a text

A text that is written with **`quote`** is scanned back, whatever follows it: **`advance_quote`**. As
the word is that of one rule only, a scanner in front of it comes to stand at one token, which has
the literal for its text and what was written for its value.

* **`Word.first_of_value`** — the token set of a word of one rule. -/

namespace GrammarLang.Grammar

open GrammarLang.Scan GrammarLang.Text

variable {table : RuleTable} {mode name : String} {front rest : List Char}

/-- Where a word of one rule starts, the first token set is a single token with the value of the
word. -/
theorem Word.first_of_value (hword : Word table mode [name] front rest)
    (h : Lexicon.table = .ok table) {value : Value}
    (hvalue : ∀ rule ∈ table.rules, rule.name = name →
      rule.evaluate (String.ofList front) = .ok value) (offset : Nat) :
    First (table.rulesInMode mode) (offset, front ++ rest)
      (some ⟨⟨name, ⟨offset, offset + byteSize front⟩, String.ofList front, value⟩, []⟩)
      (offset + byteSize front, rest) := by
  obtain ⟨rule, htied, hname⟩ := List.map_eq_singleton_iff.1 hword.names_eq
  have hmem : rule ∈ table.rules := by
    have hrule : rule ∈ tied (table.rulesInMode mode) (front ++ rest) front.length := by
      rw [htied]
      exact List.mem_singleton_self rule
    exact (List.mem_filter.1 (List.mem_filter.1 hrule).1).1
  have hreads : Reads offset front rule
      ⟨name, ⟨offset, offset + byteSize front⟩, String.ofList front, value⟩ :=
    ⟨value, hvalue rule hmem hname, by rw [hname]⟩
  exact .lexeme .nil (hword.isLexeme h) (htied ▸ .cons hreads .nil)

/-- The rule for string literals decodes them. -/
theorem evaluate_string (h : Lexicon.table = .ok table) {rule : Rule} (hmem : rule ∈ table.rules)
    (hname : rule.name = Lexicon.string) (text : String) : rule.evaluate text = stringValue text := by
  rw [Rule.evaluate, Lexicon.decoder_eq h hmem, hname]
  rfl

/-- **A text that is written as a literal is scanned back**, from any place in a source where the
literal comes next, and whatever comes behind it: the current tokens are one string token with the
literal for its text and the text for its value. -/
theorem advance_quote (h : Lexicon.table = .ok table) (value rest : String) {scanner : Scanner}
    (htable : scanner.table = table) (hmode : scanner.mode = defaultMode)
    (hrest : scanner.place.rest = quote value.toList ++ rest.toList) :
    (∃ after, scanner.advance = .ok () after ∧
      after.currentTokens = [⟨Lexicon.string, scanner.place.span (quote value.toList).length,
        String.ofList (quote value.toList), .text value⟩] ∧
      after.place.rest = rest.toList) ∧
    stringValue (String.ofList (quote value.toList)) = .ok (.text value) := by
  subst htable
  refine ⟨?_, stringValue_quote value⟩
  have hvalue (rule : Rule) (hmem : rule ∈ scanner.table.rules) (hname : rule.name = Lexicon.string) :
      rule.evaluate (String.ofList (quote value.toList)) = .ok (.text value) := by
    rw [evaluate_string h hmem hname, stringValue_quote]
  have hfirst := (word_quote h value rest.toList).first_of_value h hvalue scanner.place.offset
  have hspot : scanner.spot = (scanner.place.offset, quote value.toList ++ rest.toList) := by
    rw [← hrest]
    rfl
  rw [← hspot, ← hmode] at hfirst
  obtain ⟨after, hadvance, hcurrent, hstop⟩ :=
    Scanner.advance_of_first (Lexicon.anchored_mode h _) hfirst
  refine ⟨after, hadvance, ?_, (Prod.mk.inj hstop).2⟩
  rw [Scanner.currentTokens, hcurrent, Cursor.span, hrest, List.take_left]
  rfl

/-- A text with a quote, a backslash, a control character and a digit behind a zero, in front of a
quote. -/
theorem advance_quote_awkward :
    let source : Source := .ofString "\"é\\\"\\\\\\u\x7b7f\x7d\\n\\00\"\"0"
    ∃ after, (Scanner.initial Lexicon.words source).advance = .ok () after ∧
      after.currentTokens = [⟨Lexicon.string, ⟨0, 19⟩, "\"é\\\"\\\\\\u\x7b7f\x7d\\n\\00\"",
        .text "é\"\\\x7f\n\x000"⟩] ∧
      after.place.rest = "\"0".toList ∧
      stringValue "\"é\\\"\\\\\\u\x7b7f\x7d\\n\\00\"" = .ok (.text "é\"\\\x7f\n\x000") := by
  intro source
  have hliteral : quote "é\"\\\x7f\n\x000".toList =
      "\"é\\\"\\\\\\u\x7b7f\x7d\\n\\00\"".toList := by decide
  have hrest : (Scanner.initial Lexicon.words source).place.rest =
      quote "é\"\\\x7f\n\x000".toList ++ "\"0".toList := by
    rw [hliteral]
    decide
  obtain ⟨⟨after, hadvance, htokens, hafter⟩, hvalue⟩ :=
    advance_quote Lexicon.table_eq_words "é\"\\\x7f\n\x000" "\"0" rfl rfl hrest
  have hspan : (Scanner.initial Lexicon.words source).place.span
      (quote "é\"\\\x7f\n\x000".toList).length = ⟨0, 19⟩ := by
    rw [hliteral]
    decide
  rw [hspan, hliteral, String.ofList_toList] at htokens
  rw [hliteral, String.ofList_toList] at hvalue
  exact ⟨after, hadvance, htokens, hafter, hvalue⟩

end GrammarLang.Grammar

import GrammarLang.Proofs.Grammar.Ahead
import GrammarLang.Proofs.Grammar.Shape

/-! # Numbers are never lost

The parser takes the value of a number from its token, and would go on with zero if there were none.
It never has to: a token of the rule `number` is made of decimal digits, and where it could be evaluated
its value is theirs (**`numeric_of_first`**). A number of more than 64 bits is refused when it is
evaluated, which is before any function of the parser gets hold of its token
(**`Scanner.advance_refuses_number_iff`**). So the bounds of a suffix, if they are spelt by token sets
that were evaluated, are the numbers of these: **`SuffixSpells.bounds`**. -/

namespace GrammarLang.Grammar

open GrammarLang.Scan GrammarLang.Text Relation

open Lexicon (number)

/-! ## Decimal numbers -/

/-- A text of decimal digits, of which there is one at least. -/
structure IsDecimal (text : String) : Prop where
  /-- It is not empty. -/
  nonempty : text.toList ≠ []
  /-- Each character is a digit. -/
  digits : ∀ c ∈ text.toList, c.isDigit = true

/-- The number that decimal digits stand for. -/
def decimalValue (text : String) : Nat := Nat.ofDigitChars 10 text.toList 0

/-- Zeros in front change nothing. -/
example : decimalValue "007" = 7 := by decide

/-- Digits are decoded as their number, unless it needs more than 64 bits. -/
theorem numberValue_decimal {text : String} (h : IsDecimal text) :
    numberValue text = if decimalValue text < 2 ^ 64 then
      .ok (.integer (UInt64.ofNat (decimalValue text)))
    else .error "Number does not fit in 64 bits" := by
  rw [numberValue, parseUInt64?_digits h.nonempty h.digits, ← decimalValue]
  by_cases hlt : decimalValue text < 2 ^ 64
  · have hsize : decimalValue text < UInt64.size := hlt
    rw [dif_pos hsize, if_pos hlt, UInt64.ofNatLT_eq_ofNat]
  · have hsize : ¬ decimalValue text < UInt64.size := hlt
    rw [dif_neg hsize, if_neg hlt]

/-- What digits are decoded as is their number. -/
theorem toNat_of_numberValue {text : String} {value : UInt64} (h : IsDecimal text)
    (hvalue : numberValue text = .ok (.integer value)) : value.toNat = decimalValue text := by
  rw [numberValue_decimal h] at hvalue
  split at hvalue
  · rename_i hlt
    cases hvalue
    exact UInt64.toNat_ofNat_of_lt hlt
  · contradiction

/-- A rule for numbers matches digits. -/
theorem isDecimal_of_matchLength? {table : RuleTable} (h : Lexicon.table = .ok table) {rule : Rule}
    (hmem : rule ∈ table.rules) (hname : rule.name = number) {text : List Char} {count : Nat}
    (hmatch : rule.matchLength? text = some count) : IsDecimal (String.ofList (text.take count)) := by
  have hplain : rule.name ≠ Lexicon.regexRepeat := by
    rw [hname]
    decide
  have hbounds := Rule.matchLength?_bounds hmatch
  rw [Lexicon.matchLength?_eq h hmem hplain, hname, Regex.Expr.takes?] at hmatch
  cases text with
  | nil =>
    simp only [List.length_nil] at hbounds
    omega
  | cons c cs =>
    rw [Lexicon.first?_number] at hmatch
    by_cases hc : isDigit c = true
    · -- The match is the first digit and all those that follow it.
      rw [if_pos hc] at hmatch
      have hsplit : c :: cs = (c :: cs.takeWhile isDigit) ++ cs.dropWhile isDigit := by
        rw [List.cons_append, List.takeWhile_append_dropWhile]
      have hcount : count = (c :: cs.takeWhile isDigit).length := by
        have hlength := congrArg List.length hsplit
        rw [List.length_append] at hlength
        simp only at hmatch
        split at hmatch
        · contradiction
        · have := Option.some.inj hmatch
          omega
      have htake : (c :: cs).take count = c :: cs.takeWhile isDigit := by
        rw [hcount, hsplit]
        exact List.take_left
      rw [htake]
      refine ⟨by simp, fun d hd => ?_⟩
      rw [String.toList_ofList] at hd
      rw [← isDigit_eq]
      rcases List.mem_cons.1 hd with rfl | hd
      · exact hc
      · exact List.mem_takeWhile_imp hd
    · rw [if_neg hc] at hmatch
      contradiction

/-! ## Tokens -/

/-- A token is a number: its text is made of decimal digits, and its value is theirs. -/
structure IsNumber (token : Token) (value : UInt64) : Prop where
  /-- It is of the rule for numbers. -/
  rule_eq : token.rule = number
  /-- It is written with digits. -/
  decimal : IsDecimal token.text
  /-- It has a number for a value. -/
  value_eq : token.value = .integer value
  /-- This is the number that the digits stand for. -/
  exact : value.toNat = decimalValue token.text

/-- Every token of the set that is of the rule for numbers is a number. -/
def Numeric (set : TokenSet) : Prop :=
  ∀ token ∈ set.toList, token.rule = number → IsNumber token (Parser.numberOf token)

/-- **What is evaluated as a number is one.** -/
theorem numeric_of_first {table : RuleTable} (h : Lexicon.table = .ok table) {mode : String}
    {here there : Nat × List Char} {set : TokenSet}
    (hfirst : First (table.rulesInMode mode) here (some set) there) : Numeric set := by
  intro token htoken hrule
  cases hfirst with
  | @lexeme offset gap front rest _ passed lexeme read =>
    obtain ⟨rule, htied, value, hvalue, rfl⟩ := Reads.of_mem read htoken
    obtain ⟨hmem, -, hmatch⟩ := mem_of_mem_tied htied
    have hdecimal := isDecimal_of_matchLength? h hmem hrule hmatch
    rw [List.take_left] at hdecimal
    rw [Rule.evaluate, Lexicon.decoder_eq h hmem, show rule.name = number from hrule] at hvalue
    change numberValue (String.ofList front) = .ok value at hvalue
    -- Evaluation did not fail, so the digits fit in 64 bits.
    obtain ⟨exact, rfl⟩ : ∃ exact, value = .integer exact := by
      rw [numberValue_decimal hdecimal] at hvalue
      split at hvalue
      · cases hvalue
        exact ⟨_, rfl⟩
      · contradiction
    exact ⟨hrule, hdecimal, rfl, toNat_of_numberValue hdecimal hvalue⟩

/-- A number that the parser takes is a number. -/
theorem Parser.StandsIn.isNumber {parser after : Parser} {source : Source} (h : parser.StandsIn source)
    {token : Token} (htakes : parser.Takes [number] token after) :
    IsNumber token (Parser.numberOf token) := by
  obtain ⟨-, htable, mode, text, hat⟩ := h
  obtain ⟨set, hskips, hoffers⟩ := htakes.offers
  have hfirst := hat.first
  rw [hskips.1] at hfirst
  exact numeric_of_first htable hfirst token hoffers.mem hoffers.rule_eq

/-- The numbers among the token sets of a text are numbers. -/
theorem numeric_of_scanned {table : RuleTable} (h : Lexicon.table = .ok table)
    {here stop : Nat × List Char} {marked : List Marked} (hscanned : Scanned table here marked stop) :
    ∀ one ∈ marked, Numeric one.set := by
  induction hscanned with
  | nil => simp
  | cons found _ ih => exact List.forall_mem_cons.2 ⟨numeric_of_first h found, ih⟩

end GrammarLang.Grammar

namespace GrammarLang.Scan

open GrammarLang.Text GrammarLang.Grammar

/-- Behind ignored text the scanner finds a number, with some text from some offset on. -/
def Scanner.FindsNumber (scanner : Scanner) (text : String) (offset : Nat) : Prop :=
  ∃ first others count place, scanner.finding = (.lexeme first others count, place) ∧
    (∃ rule ∈ first :: others, rule.name = Lexicon.number) ∧
    text = place.text count ∧ offset = place.offset

namespace Scanner

variable {scanner after : Scanner} {text reason : String} {offset : Nat} {position : Position}

/-- What the scanner finds is then a number and nothing else, made of digits. -/
theorem only_number (h : Lexicon.table = .ok scanner.table) {first : Rule} {others : List Rule}
    {count : Nat} {place : Cursor scanner.source}
    (hfound : scanner.finding = (.lexeme first others count, place))
    (hnumber : ∃ rule ∈ first :: others, rule.name = Lexicon.number) :
    others = [] ∧ first.name = Lexicon.number ∧ first.decoder = some numberValue ∧
      IsDecimal (place.text count) := by
  have hanchored : Anchored scanner.rules := Lexicon.anchored_mode h _
  obtain ⟨hholds, -⟩ := finding_holds hanchored hfound
  generalize hrest : place.rest = rest at hholds
  cases hholds with
  | lexeme longest attained kept =>
    have hone : others = [] := by
      rcases names_tied h longest with hone | ⟨-, -, hnames⟩
      · change (tied scanner.rules rest count).length ≤ 1 at hone
        rw [attained] at hone
        exact List.length_eq_zero_iff.1 (Nat.le_zero.1 (Nat.le_of_succ_le_succ hone))
      · -- The keyword is a name as well, but neither is a number.
        change (tied scanner.rules rest count).map Rule.name = _ at hnames
        rw [attained] at hnames
        obtain ⟨rule, hrule, hname⟩ := hnumber
        have hmem : Lexicon.number ∈ [Lexicon.keyword, Lexicon.ident] :=
          hnames ▸ hname ▸ List.mem_map_of_mem hrule
        exact absurd hmem (by decide)
    subst hone
    obtain ⟨rule, hrule, hname⟩ := hnumber
    obtain rfl := List.mem_singleton.1 hrule
    have htied : rule ∈ tied scanner.rules rest count := by
      rw [attained]
      exact hrule
    obtain ⟨hmem, -, hmatch⟩ := mem_of_mem_tied htied
    refine ⟨rfl, hname, ?_, ?_⟩
    · rw [Lexicon.decoder_eq h hmem, hname]
      rfl
    · have hdecimal := isDecimal_of_matchLength? h hmem hname hmatch
      rwa [← hrest] at hdecimal

/-- **A number is refused just if it needs more than 64 bits**, with its text and the place where it
starts. -/
theorem advance_refuses_number_iff (h : Lexicon.table = .ok scanner.table) :
    (∃ after, scanner.advance = .failed (.decode Lexicon.number text reason position) after) ↔
      ∃ offset, scanner.FindsNumber text offset ∧ 2 ^ 64 ≤ decimalValue text ∧
        reason = "Number does not fit in 64 bits" ∧ position = scanner.source.position offset := by
  constructor
  · rintro ⟨after, hadvance⟩
    obtain ⟨found, place, hfound⟩ : ∃ found place, scanner.finding = (found, place) := ⟨_, _, rfl⟩
    simp only [advance, hfound] at hadvance
    cases found with
    | lexeme first others count =>
      cases hset : evaluateAll scanner.source (place.span count) (place.text count) first others with
      | ok set =>
        simp only [hset] at hadvance
        contradiction
      | error error =>
        simp only [hset] at hadvance
        cases hadvance
        -- The rule that refuses the text is the one for numbers, and it is alone.
        obtain ⟨before, rule, behind, failed, hsplit, -, hrefused, heq⟩ := evaluateAll_eq_error hset
        obtain ⟨hname, htext, hreason, hposition⟩ := Error.decode.inj heq
        have hnumber : ∃ rule ∈ first :: others, rule.name = Lexicon.number :=
          ⟨rule, by rw [hsplit]; simp, hname.symm⟩
        obtain ⟨rfl, -, hdecoder, hdecimal⟩ := only_number h hfound hnumber
        obtain rfl : rule = first := by
          have hmem : rule ∈ [first] := by rw [hsplit]; simp
          exact List.mem_singleton.1 hmem
        rw [Rule.evaluate, hdecoder] at hrefused
        change numberValue (place.text count) = .error failed at hrefused
        rw [numberValue_decimal hdecimal] at hrefused
        split at hrefused
        · contradiction
        · rename_i hlarge
          cases hrefused
          refine ⟨place.offset, ⟨rule, [], count, place, hfound, hnumber, htext, rfl⟩, ?_, hreason,
            hposition⟩
          rw [htext]
          exact Nat.not_lt.1 hlarge
    | _ => simp at hadvance
  · rintro ⟨offset, ⟨first, others, count, place, hfound, hnumber, rfl, rfl⟩, hlarge, rfl, rfl⟩
    obtain ⟨rfl, hname, hdecoder, hdecimal⟩ := only_number h hfound hnumber
    have hrefused : first.evaluate (place.text count) = .error "Number does not fit in 64 bits" := by
      rw [Rule.evaluate, hdecoder]
      show numberValue _ = _
      rw [numberValue_decimal hdecimal, if_neg (Nat.not_lt.2 hlarge)]
    -- Nothing else is decoded there, so this is the failure of the whole set.
    refine ⟨{ scanner with place }, ?_⟩
    simp only [advance, hfound, evaluateAll, evaluate, hrefused, hname]
    rfl

end Scanner

end GrammarLang.Scan

namespace GrammarLang.Grammar

open GrammarLang.Scan GrammarLang.Text Relation

open Lexicon (number)

/-! ## Token sets of numbers -/

/-- A token of the set is a number. -/
def NumberIs (value : UInt64) (set : TokenSet) : Prop :=
  ∃ token, Offers set number token ∧ IsNumber token value

theorem NumberSpells.numberIs {value : UInt64} {set : TokenSet} (h : NumberSpells value set)
    (hnumeric : Numeric set) : NumberIs value set := by
  obtain ⟨token, hoffers, hvalue⟩ := h
  have hnumber := hnumeric token hoffers.mem hoffers.rule_eq
  obtain rfl : value = Parser.numberOf token := by
    rw [Parser.numberOf, hvalue]
    rfl
  exact ⟨token, hoffers, hnumber⟩

/-- Which token sets the bounds of a suffix are written with: a sign has bounds of its own, one number
is both bounds, a comma behind it leaves the upper one open, and two numbers are one bound each. -/
inductive Bounds (suffix : Suffix) : List TokenSet → Prop
  | sign {set : TokenSet} {sign : String} (usual : sign ∈ ["*", "+", "?"]) (offers : Is set sign)
      (suffix_eq : suffix = .ofSign sign) : Bounds suffix [set]
  | exactly {opening lowest closing : TokenSet} {bound : UInt64} (opens : Is opening "\x7b")
      (lower : NumberIs bound lowest) (closes : Is closing "\x7d")
      (bounds_eq : suffix.bounds = (bound, some bound)) : Bounds suffix [opening, lowest, closing]
  | atLeast {opening lowest comma closing : TokenSet} {bound : UInt64} (opens : Is opening "\x7b")
      (lower : NumberIs bound lowest) (separates : Is comma ",") (closes : Is closing "\x7d")
      (bounds_eq : suffix.bounds = (bound, none)) : Bounds suffix [opening, lowest, comma, closing]
  | between {opening lowest comma highest closing : TokenSet} {least most : UInt64}
      (opens : Is opening "\x7b") (lower : NumberIs least lowest) (separates : Is comma ",")
      (upper : NumberIs most highest) (closes : Is closing "\x7d") (le : least ≤ most)
      (bounds_eq : suffix.bounds = (least, some most)) :
      Bounds suffix [opening, lowest, comma, highest, closing]

theorem SuffixSpells.bounds {suffix : Suffix} {sets : List TokenSet} (h : SuffixSpells suffix sets)
    (hnumeric : ∀ set ∈ sets, Numeric set) : Bounds suffix sets := by
  have hnumber {value : UInt64} {set : TokenSet} (hmem : set ∈ sets) (hspells : NumberSpells value set) :=
    hspells.numberIs (hnumeric set hmem)
  cases h with
  | sign usual offers => exact .sign usual offers rfl
  | exactly opens lower closes =>
    exact .exactly opens (hnumber (by simp) lower) closes (Suffix.bounds_ofBounds _ _)
  | atLeast opens lower separates closes =>
    exact .atLeast opens (hnumber (by simp) lower) separates closes (Suffix.bounds_ofBounds _ _)
  | between opens lower separates upper closes le =>
    exact .between opens (hnumber (by simp) lower) separates (hnumber (by simp) upper) closes le
      (Suffix.bounds_ofBounds _ _)

theorem Each.bounds {suffixes : List Suffix} {sets : List TokenSet}
    (h : Each SuffixSpells suffixes sets) (hnumeric : ∀ set ∈ sets, Numeric set) :
    Each Bounds suffixes sets := by
  induction h with
  | nil => exact .nil
  | cons spelt _ ih =>
    obtain ⟨hfirst, hothers⟩ := List.forall_mem_append.1 hnumeric
    exact .cons (spelt.bounds hfirst) (ih hothers)

/-- An element that is a number, maybe negated, is written with the token of that number behind the
signs of negation. -/
theorem ElementSpells.numberIs {arena : Arena} {element : Element} {sets : List TokenSet}
    (h : ElementSpells arena element sets) (hnumeric : ∀ set ∈ sets, Numeric set) {id : TerminalId}
    {value : UInt64} (hid : element.unnegated = .terminal id)
    (hvalue : arena.get? id = some (.number value)) :
    ∃ tildes set, sets = tildes ++ [set] ∧ (∀ tilde ∈ tildes, Is tilde "~") ∧ NumberIs value set :=
  match element, h with
  | .terminal _, .terminal stored spelt => by
    cases hid
    obtain rfl := Option.some.inj (hvalue.symm.trans stored)
    cases spelt with
    | number offers value_eq =>
      exact ⟨[], _, rfl, nofun, NumberSpells.numberIs ⟨_, offers, value_eq⟩ (hnumeric _ (by simp))⟩
  | .negation _, .negation negates spelt => by
    obtain ⟨-, hothers⟩ := List.forall_mem_cons.1 hnumeric
    obtain ⟨tildes, set, rfl, htildes, hnumber⟩ := spelt.numberIs hothers hid hvalue
    exact ⟨_ :: tildes, set, rfl, List.forall_mem_cons.2 ⟨negates, htildes⟩, hnumber⟩
  | .group _ _, _ => nomatch hid

/-- Something is written for every element, -/
theorem ElementSpells.ne_nil {arena : Arena} {element : Element} {sets : List TokenSet}
    (h : ElementSpells arena element sets) : sets ≠ [] := by
  cases h with
  | terminal stored spelt => cases spelt <;> simp
  | negation => simp
  | group => simp

/-- and so for every component. -/
theorem ComponentSpells.ne_nil {arena : Arena} {part : Component} {sets : List TokenSet}
    (h : ComponentSpells arena part sets) : sets ≠ [] := by
  cases h with
  | parts inFront labelled spelt repeated code => simp [spelt.ne_nil]

end GrammarLang.Grammar

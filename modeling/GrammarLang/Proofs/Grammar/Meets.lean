import GrammarLang.Proofs.Grammar.Literals
import GrammarLang.Proofs.Grammar.Standing

/-! # Meeting words

A parser that stands at a text meets the first word of it. **`Meets`** says which word that is, and
**`Parser.Stands.sees_eq`** what the parser sees by the first character of the word alone. Behind the
word the parser comes to stand at the text that is left, if that is **`Readable`**:
**`Parser.Stands.exists_takes`**, **`Parser.Stands.of_takes`**. -/

namespace GrammarLang.Grammar

open GrammarLang.Scan GrammarLang.Text

open Lexicon (ident number string)

/-- The first word of a text of the notation proper, and the text behind it. -/
structure Meets (text : List Char) (names : List String) (front rest : List Char) : Prop where
  /-- It stands behind the gap. -/
  gap_eq : behindGap text = front ++ rest
  /-- It is a word. -/
  word : ∀ table, Lexicon.table = .ok table → Word table defaultMode names front rest

/-- A text of the notation proper starts with a word, unless nothing but a gap is left. -/
def Readable (text : List Char) : Prop :=
  behindGap text = [] ∨ ∃ names front rest, Meets text names front rest

namespace Meets

variable {text front rest : List Char} {names : List String}

theorem readable (h : Meets text names front rest) : Readable text := .inr ⟨_, _, _, h⟩

/-- A blank in front does not matter. -/
theorem space (h : Meets text names front rest) : Meets (' ' :: text) names front rest :=
  ⟨(behindGap_space text).trans h.gap_eq, h.word⟩

theorem newline (h : Meets text names front rest) : Meets ('\n' :: text) names front rest :=
  ⟨(behindGap_newline text).trans h.gap_eq, h.word⟩

theorem lead_eq {c : Char} {cs : List Char} (h : Meets text names (c :: cs) rest) :
    lead text = some c := by
  rw [lead, h.gap_eq]
  rfl

/-- A word that starts with one of the first 128 characters, but no blank and no slash, has no gap
in front. -/
theorem of_cons {c : Char} {cs : List Char} (keep : Char → Bool)
    (hkeep : ∀ c, keep c = true → c.toNat < 128)
    (hall : ∀ n < 128, keep (Char.ofNat n) = true →
      isBlank (Char.ofNat n) = false ∧ Char.ofNat n ≠ '/') (hc : keep c = true)
    (hword : ∀ table, Lexicon.table = .ok table → Word table defaultMode names (c :: cs) rest) :
    Meets (c :: cs ++ rest) names (c :: cs) rest := by
  obtain ⟨hblank, hslash⟩ := Lexicon.of_ascii (P := fun c => keep c = true →
    isBlank c = false ∧ c ≠ '/') hall (hkeep c hc) hc
  exact ⟨behindGap_cons hblank hslash _, hword⟩

theorem sign {c : Char} (hc : c ∈ signChars) (cs : List Char) :
    Meets (c :: cs) [String.singleton c] [c] cs := by
  have hall : ∀ c ∈ signChars, isBlank c = false ∧ c ≠ '/' := List.all_iff_forall_prop.1 (by decide)
  exact ⟨behindGap_cons (hall c hc).1 (hall c hc).2 cs, fun _ h => word_sign h hc cs⟩

theorem opening (kind : GroupKind) (cs : List Char) :
    Meets (kind.opening.toList ++ ' ' :: cs) [kind.opening] kind.opening.toList (' ' :: cs) := by
  refine ⟨?_, fun _ h => word_opening h kind cs⟩
  cases kind <;> exact behindGap_cons (by decide) (by decide) _

theorem slash {c : Char} (hline : c ≠ '/') (hblock : c ≠ '*') (cs : List Char) :
    Meets ('/' :: c :: cs) ["/"] ['/'] (c :: cs) :=
  ⟨behindGap_slash hline hblock cs, fun _ h => word_slash h hline hblock cs⟩

theorem name (htext : IsName text) (hrest : Apart rest) :
    Meets (text ++ rest) (namesOfName text) text rest := by
  obtain ⟨c, cs, rfl, hc, hcs⟩ := htext
  exact .of_cons isNameStart (fun _ hc => Unicode.Ranges.lt_of_contains (by decide) hc)
    (by decide) hc fun _ h => word_name h ⟨c, cs, rfl, hc, hcs⟩ hrest

theorem quote (value : String) (rest : List Char) :
    Meets (Grammar.quote value.toList ++ rest) [string] (Grammar.quote value.toList) rest :=
  ⟨behindGap_cons (by decide) (by decide) _, fun _ h => word_quote h value rest⟩

theorem toString (value : UInt64) (hrest : Apart rest) :
    Meets ((ToString.toString value.toNat).toList ++ rest) [number]
      (ToString.toString value.toNat).toList rest := by
  have hword := fun table (h : Lexicon.table = .ok table) => word_toString h value hrest
  obtain ⟨c, cs, heq, hdigits⟩ := exists_digits value
  rw [heq] at hword ⊢
  exact .of_cons isDigit (fun _ hc => Unicode.Ranges.lt_of_contains (by decide) hc)
    (by decide) (hdigits c List.mem_cons_self) hword

end Meets

theorem Readable.newline {text : List Char} (h : Readable text) : Readable ('\n' :: text) := by
  rcases h with hnil | ⟨names, front, rest, hmeets⟩
  · exact .inl ((behindGap_newline text).trans hnil)
  · exact hmeets.newline.readable

/-- A text that is readable has a first token set, or none up to its end. -/
theorem Readable.first {text : List Char} (hreadable : Readable text) {table : RuleTable}
    (h : Lexicon.table = .ok table) (offset : Nat) :
    ∃ current stop, First (table.rulesInMode defaultMode) (offset, text) current stop := by
  obtain ⟨gap, htext, hpassed⟩ := passed_behindGap h text
  rcases hreadable with hnil | ⟨names, front, rest, hmeets⟩
  · rw [hnil, List.append_nil] at htext
    rw [hnil] at hpassed
    rw [htext]
    exact ⟨_, _, .atEnd hpassed⟩
  · rw [hmeets.gap_eq] at htext hpassed
    obtain ⟨set, hfirst, -⟩ := (hmeets.word table h).first h hpassed offset
    rw [htext]
    exact ⟨_, _, hfirst⟩

namespace Parser

variable {parser after : Parser} {text front rest : List Char} {names : List String}

/-! ## What is seen -/

/-- What a parser stands at is cut off behind the gap. -/
theorem Stands.isLexeme {set : TokenSet} (h : parser.Stands [] text)
    (hcurrent : parser.scanner.current = some set) :
    ∃ front, behindGap text = front ++ parser.scanner.place.rest ∧
      IsLexeme (parser.scanner.table.rulesInMode defaultMode) front parser.scanner.place.rest ∧
      set.rules = (tied (parser.scanner.table.rulesInMode defaultMode)
        (front ++ parser.scanner.place.rest) front.length).map Rule.name := by
  have hfirst : First (parser.scanner.table.rulesInMode defaultMode) _ _ _ := h.at_text.first
  generalize hspot : parser.scanner.spot = spot at hfirst
  rw [hcurrent] at hfirst
  cases hfirst with
  | @lexeme _ gap front rest _ passed lexeme read =>
    have hrest : parser.scanner.place.rest = rest := (Prod.mk.inj hspot).2
    rw [hrest]
    exact ⟨front, behindGap_eq h.table passed lexeme.unpassable, lexeme, Reads.names_eq read⟩

/-- What a parser stands at is the word that the text starts with. -/
theorem Stands.exists_meets {set : TokenSet} (h : parser.Stands [] text)
    (hcurrent : parser.scanner.current = some set) :
    ∃ front, Meets text set.rules front parser.scanner.place.rest := by
  have hfirst : First (parser.scanner.table.rulesInMode defaultMode) _ _ _ := h.at_text.first
  generalize hspot : parser.scanner.spot = spot at hfirst
  rw [hcurrent] at hfirst
  cases hfirst with
  | @lexeme _ gap front rest _ passed lexeme read =>
    have hrest : parser.scanner.place.rest = rest := (Prod.mk.inj hspot).2
    rw [hrest]
    refine ⟨front, behindGap_eq h.table passed lexeme.unpassable, fun table htable => ?_⟩
    cases h.table.symm.trans htable
    exact .of_lexeme h.table lexeme read

/-- At the end of a text there is nothing but a gap. -/
theorem Stands.behindGap_eq_nil (h : parser.Stands [] text)
    (hcurrent : parser.scanner.current = none) : behindGap text = [] := by
  have hfirst : First (parser.scanner.table.rulesInMode defaultMode) _ _ _ := h.at_text.first
  generalize hspot : parser.scanner.spot = spot at hfirst
  rw [hcurrent] at hfirst
  cases hfirst with
  | atEnd passed =>
    have hgap := behindGap_eq h.table passed (unpassable_nil _)
    rwa [List.append_nil] at hgap

/-- A parser sees the rules that attain the longest match. -/
theorem sees_iff_tied {set : TokenSet} {rule : String} {rules : List Rule}
    (hcurrent : parser.scanner.current = some set) (hrules : set.rules = rules.map Rule.name) :
    parser.sees rule = true ↔ ∃ other ∈ rules, other.name = rule := by
  rw [← List.mem_map, ← hrules]
  exact (sees_iff hcurrent).trans is_iff_mem_rules

theorem sees_eq_false_of_none {rule : String} (hcurrent : parser.scanner.current = none) :
    parser.sees rule = false := by
  simp [sees, Scanner.matchesRule, Scanner.matching?, hcurrent]

/-- Whether a parser sees a rule is told by the character that the text leads with. -/
theorem Stands.sees_eq {rule : String} {told : Char → Bool} (h : parser.Stands [] text)
    (htold : ToldBy rule told) : parser.sees rule = (lead text).any told := by
  cases hcurrent : parser.scanner.current with
  | none =>
    rw [sees_eq_false_of_none hcurrent, lead, h.behindGap_eq_nil hcurrent]
    rfl
  | some set =>
    obtain ⟨front, hgap, hlexeme, hrules⟩ := h.isLexeme hcurrent
    obtain ⟨c, cs, rfl⟩ := List.exists_cons_of_ne_nil hlexeme.front_ne_nil
    have hsolid := behindGap_behindGap text
    rw [hgap] at hsolid
    rw [Bool.eq_iff_iff, sees_iff_tied hcurrent hrules, lead, hgap]
    exact htold.tied_iff h.table hsolid hlexeme.longest

/-- A parser that sees a sign stands in front of it. -/
theorem Stands.behindGap_of_sign {c : Char} (hc : c ∈ signChars) (h : parser.Stands [] text)
    (hsees : parser.sees (String.singleton c) = true) : ∃ behind, behindGap text = c :: behind := by
  rw [h.sees_eq (.sign hc), lead, Option.any_eq_true] at hsees
  obtain ⟨d, hhead, hd⟩ := hsees
  obtain rfl := of_decide_eq_true hd
  exact List.head?_eq_some_iff.1 hhead

/-- A sign that a parser sees is in the text. -/
theorem Stands.mem_of_sees_sign {c : Char} (hc : c ∈ signChars) (h : parser.Stands [] text)
    (hsees : parser.sees (String.singleton c) = true) : c ∈ text := by
  obtain ⟨behind, hgap⟩ := h.behindGap_of_sign hc hsees
  have hmem : c ∈ behindGap text := hgap ▸ List.mem_cons_self
  exact (behindGap_suffix text).subset hmem

/-- Names are seen where a text leads with one. -/
theorem Stands.sees_ident_eq (h : parser.Stands [] text) :
    parser.sees ident = (lead text).any isNameStart := by
  cases hcurrent : parser.scanner.current with
  | none =>
    rw [sees_eq_false_of_none hcurrent, lead, h.behindGap_eq_nil hcurrent]
    rfl
  | some set =>
    obtain ⟨front, hgap, hlexeme, hrules⟩ := h.isLexeme hcurrent
    obtain ⟨c, cs, rfl⟩ := List.exists_cons_of_ne_nil hlexeme.front_ne_nil
    rw [Bool.eq_iff_iff, sees_iff_tied hcurrent hrules, lead, hgap]
    show _ ↔ isNameStart c = true
    constructor
    · rintro ⟨rule, hrule, hname⟩
      obtain ⟨hmem, hcount⟩ := List.mem_filter.1 hrule
      have hstart := Lexicon.mayStart_of_matchLength? h.table (List.mem_filter.1 hmem).1
        (of_decide_eq_true hcount)
      rw [hname] at hstart
      exact hstart
    · intro hc
      -- The name goes as far as its characters do, and no match is longer.
      have hwins : Wins parser.scanner.table defaultMode _ (c :: cs) parser.scanner.place.rest :=
        ⟨hlexeme.longest, rfl⟩
      have hname := wins_takeWhile h.table hc (cs ++ parser.scanner.place.rest)
      have hnames := (hwins.unique hname (by
        rw [List.cons_append, List.cons_append, List.takeWhile_append_dropWhile])).1
      rw [← List.mem_map, hnames]
      exact ident_mem_namesOfName _

theorem seesAny_eq_false {rules : List String} :
    parser.seesAny rules = false ↔ ∀ rule ∈ rules, parser.sees rule = false := by
  rw [seesAny, Scanner.matchesAny, List.any_eq_false]
  exact forall₂_congr fun rule _ => Bool.eq_false_iff.symm

/-- A parser has nothing to take of rules that it does not see. -/
theorem lacks_iff_sees {rules : List String} :
    parser.Lacks rules ↔ ∀ rule ∈ rules, parser.sees rule = false := by
  simp only [Lacks, Scanner.alternatives, List.flatMap_eq_nil_iff, List.filter_eq_nil_iff,
    decide_eq_true_eq]
  refine forall₂_congr fun rule _ => ?_
  cases hcurrent : parser.scanner.current with
  | none => simp [Scanner.currentTokens, hcurrent, sees_eq_false_of_none hcurrent]
  | some set =>
    rw [← Bool.not_eq_true, sees_iff hcurrent, Scanner.currentTokens, hcurrent]
    constructor
    · rintro hnone ⟨token, hoffers⟩
      exact hnone token hoffers.mem hoffers.rule_eq
    · intro hnone token hmem hrule
      exact hnone ⟨token, hmem, hrule⟩

/-! ## What is taken -/

/-- The word that a text starts with is the token set that a parser stands at. -/
theorem Stands.shows (h : parser.Stands [] text) (hmeets : Meets text names front rest) :
    ∃ set start, parser.scanner.current = some set ∧ Shows set names front start ∧
      parser.scanner.place.rest = rest ∧ (start = parser.scanner.previousEnd ↔ text = front ++ rest) := by
  obtain ⟨gap, htext, hpassed⟩ := passed_behindGap h.table text
  rw [hmeets.gap_eq] at htext hpassed
  obtain ⟨set, hset, hshows⟩ := (hmeets.word _ h.table).first h.table hpassed
    parser.scanner.previousEnd
  rw [← htext] at hset
  have hfirst : First (parser.scanner.table.rulesInMode defaultMode) _ _ _ := h.at_text.first
  obtain ⟨hcurrent, hspot⟩ := hfirst.unique hset
  refine ⟨set, _, hcurrent, hshows, (Prod.mk.inj hspot).2, ?_⟩
  rw [htext, List.append_left_eq_self, Nat.add_eq_left]
  refine ⟨fun hsize => ?_, fun hgap => by rw [hgap, byteSize_nil]⟩
  by_contra hgap
  exact absurd hsize (Nat.ne_of_gt (byteSize_pos hgap))

/-- Of rules of which one alone has a token in the current set, that token is the alternative. -/
theorem exists_alternatives {set : TokenSet} {start : Nat} {rules : List String} {rule : String}
    (hcurrent : parser.scanner.current = some set) (hshows : Shows set names front start)
    (hcount : names.count rule = 1) (hrules : rules.filter (· ∈ names) = [rule]) :
    ∃ token ∈ set.toList, token.rule = rule ∧ parser.scanner.alternatives rules = [token] := by
  have htokens : parser.scanner.currentTokens = set.toList := by
    rw [Scanner.currentTokens, hcurrent]
  have hdropped : ∀ rules : List String,
      parser.scanner.alternatives rules =
        parser.scanner.alternatives (rules.filter (· ∈ names)) := by
    intro rules
    induction rules with
    | nil => rfl
    | cons other rules ih =>
      rw [Scanner.alternatives] at ih ⊢
      rw [List.flatMap_cons, ih, List.filter_cons]
      split
      · rfl
      · rename_i hother
        have hnone : parser.scanner.currentTokens.filter (fun token => token.rule = other) = [] := by
          rw [List.filter_eq_nil_iff, htokens]
          intro token hmem
          rw [decide_eq_true_eq] at hother ⊢
          rintro rfl
          rw [← hshows.rules_eq] at hother
          exact hother (List.mem_map.2 ⟨token, hmem, rfl⟩)
        rw [hnone]
        rfl
  have hlength : (set.toList.filter fun token => token.rule = rule).length = 1 := by
    rw [← hcount, ← hshows.rules_eq, TokenSet.rules, List.count_eq_countP, List.countP_map,
      List.countP_eq_length_filter]
    congr 1
  obtain ⟨token, htoken⟩ := List.length_eq_one_iff.1 hlength
  have hmem : token ∈ set.toList.filter fun token => token.rule = rule := by
    rw [htoken]
    exact List.mem_singleton_self _
  obtain ⟨hmem, hrule⟩ := List.mem_filter.1 hmem
  refine ⟨token, hmem, of_decide_eq_true hrule, ?_⟩
  rw [hdropped, hrules, Scanner.alternatives, htokens, List.flatMap_singleton, htoken]

/-- A scanner advances over its token set where the text behind it has a first one. -/
theorem exists_next {current : Option TokenSet} {stop : Nat × List Char}
    (htable : Lexicon.table = .ok parser.scanner.table)
    (hfirst : First (parser.scanner.table.rulesInMode parser.scanner.mode)
      (parser.scanner.place.offset, parser.scanner.place.rest) current stop) :
    ∃ scanner, parser.scanner.next = .ok () scanner := by
  have hbehind : First parser.scanner.behindCurrent.rules parser.scanner.behindCurrent.spot current
      stop := hfirst
  obtain ⟨scanner, hadvance, -⟩ : ∃ after, parser.scanner.behindCurrent.advance = .ok () after ∧
      after.current = current ∧ after.spot = stop :=
    Scanner.advance_of_first (Lexicon.anchored_mode htable _) hbehind
  exact ⟨scanner, (Scanner.next_eq parser.scanner).trans hadvance⟩

/-- A word of the right rules is taken where the text behind it can be read. -/
theorem Stands.exists_takes {rules : List String} {rule : String} (h : parser.Stands [] text)
    (hmeets : Meets text names front rest) (hcount : names.count rule = 1)
    (hrules : rules.filter (· ∈ names) = [rule]) (hreadable : Readable rest) :
    ∃ token after, parser.Takes rules token after ∧ token.rule = rule := by
  obtain ⟨set, start, hcurrent, hshows, hrest, -⟩ := h.shows hmeets
  obtain ⟨token, -, hrule, halternatives⟩ := exists_alternatives hcurrent hshows hcount hrules
  have hmode : parser.scanner.mode = defaultMode := by
    rw [Scanner.mode, h.entered_eq]
    rfl
  obtain ⟨current, stop, hfirst⟩ := hreadable.first h.table parser.scanner.place.offset
  rw [← hrest, ← hmode] at hfirst
  obtain ⟨scanner, hnext⟩ := exists_next h.table hfirst
  exact ⟨token, _, ⟨halternatives, scanner, hnext, rfl⟩, hrule⟩

/-- What is taken has the text of the word, and leads behind it. -/
theorem Stands.of_takes {rules : List String} {token : Token} (h : parser.Stands [] text)
    (hmeets : Meets text names front rest) (htakes : parser.Takes rules token after) :
    after.Stands [] rest ∧ after.arena = parser.arena ∧ token.text = String.ofList front ∧
      (text = front ++ rest → token.span.start = parser.scanner.previousEnd) := by
  obtain ⟨set, start, hcurrent, hshows, hrest, hstart⟩ := h.shows hmeets
  obtain ⟨set', hskips, hmem, -⟩ := htakes.skips
  obtain rfl : set = set' := Option.some.inj (hcurrent.symm.trans hskips.1)
  obtain ⟨hconsumes, harena, -⟩ := hskips.consumes h.table h.at_text
  have hstands := (h.skip hskips).stands
  rw [hrest] at hstands
  exact ⟨hstands, harena, hshows.text_eq token hmem,
    fun hnone => (hshows.start_eq token hmem).trans (hstart.2 hnone)⟩

/-! ## Inside other modes -/

variable {mode : String} {entered : List String}

/-- Where there are no gaps, the word that a text starts with is the token set that a parser stands
at. -/
theorem Stands.shows_inside (h : parser.Stands (mode :: entered) (front ++ rest))
    (hword : Word parser.scanner.table mode names front rest) :
    ∃ set, parser.scanner.current = some set ∧
      Shows set names front parser.scanner.previousEnd ∧ parser.scanner.place.rest = rest := by
  obtain ⟨set, hset, hshows⟩ := hword.first h.table .nil parser.scanner.previousEnd
  have hfirst : First (parser.scanner.table.rulesInMode mode) _ _ _ := h.at_text.first
  obtain ⟨hcurrent, hspot⟩ := hfirst.unique hset
  exact ⟨set, hcurrent, hshows, (Prod.mk.inj hspot).2⟩

/-- At the end of the text there is no token set. -/
theorem Stands.current_of_nil (h : parser.Stands entered []) : parser.scanner.current = none := by
  have hfirst : First (parser.scanner.table.rulesInMode (entered.head?.getD defaultMode)) _ _ _ :=
    h.at_text.first
  exact (hfirst.unique (.atEnd .nil)).1

theorem sees_iff_of_shows {set : TokenSet} {name rule : String} {start : Nat}
    (hshows : Shows set [name] front start) (hcurrent : parser.scanner.current = some set) :
    parser.sees rule = true ↔ name = rule := by
  rw [Parser.sees_iff hcurrent]
  have hrules := hshows.rules_eq
  rw [TokenSet.rules] at hrules
  constructor
  · rintro ⟨token, hmem, rfl⟩
    have hmem := List.mem_map_of_mem (f := Token.rule) hmem
    rw [hrules] at hmem
    exact (List.mem_singleton.1 hmem).symm
  · rintro rfl
    have hmem : name ∈ set.toList.map Token.rule := by simp [hrules]
    obtain ⟨token, hmem, hrule⟩ := List.mem_map.1 hmem
    exact ⟨token, hmem, hrule⟩

/-- A parser that sees something does not stand at the end. -/
theorem Stands.exists_cons {rule : String} (h : parser.Stands (mode :: entered) text)
    (hsees : parser.sees rule = true) : ∃ c cs, text = c :: cs := by
  cases text with
  | nil => rw [sees_eq_false_of_none h.current_of_nil] at hsees; contradiction
  | cons c cs => exact ⟨c, cs, rfl⟩

/-- Where modes are switched, a single token of a rule is taken if the text behind it can be read in
the new modes. -/
theorem exists_takes_switched {told : List Entry} {set : TokenSet} {start : Nat} {rule : String}
    {current : Option TokenSet} {stop : Nat × List Char}
    (htable : Lexicon.table = .ok parser.scanner.table)
    (hcurrent : parser.scanner.current = some set) (hshows : Shows set [rule] front start)
    (hfirst : First (parser.scanner.table.rulesInMode (entered.head?.getD defaultMode))
      (parser.scanner.place.offset, parser.scanner.place.rest) current stop) :
    ∃ token after, (parser.switched entered told).Takes [rule] token after := by
  have hswitched : (parser.switched entered told).scanner.current = some set := hcurrent
  obtain ⟨token, -, -, halternatives⟩ : ∃ token ∈ set.toList, token.rule = rule ∧
      (parser.switched entered told).scanner.alternatives [rule] = [token] :=
    exists_alternatives hswitched hshows (by simp) (by simp)
  have hmode : (parser.switched entered told).scanner.mode = entered.head?.getD defaultMode := rfl
  rw [← hmode] at hfirst
  obtain ⟨scanner, hnext⟩ : ∃ scanner, (parser.switched entered told).scanner.next = .ok () scanner :=
    exists_next htable hfirst
  exact ⟨token, _, halternatives, scanner, hnext, rfl⟩

end Parser

end GrammarLang.Grammar

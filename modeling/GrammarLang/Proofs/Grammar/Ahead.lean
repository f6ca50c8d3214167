import GrammarLang.Proofs.Grammar.Meets

/-! # Looking one word ahead

Twice the parser looks at the word behind the current one: a sign of equality makes a name a label,
and a number makes a brace a range. Both are told by the first character of that word, and looking
ahead in the notation proper does not fail: **`Parser.Stands.foresees_iff`**. -/

namespace GrammarLang.Grammar

open GrammarLang.Scan GrammarLang.Text

variable {table : RuleTable}

/-- Where a text starts with some characters, a rule of the notation proper does match. -/
structure MatchesAll (name : String) (told : Char → Bool) : Prop where
  /-- The rule is one of the notation proper. -/
  mem : name ∈ Lexicon.namesOf defaultMode
  /-- The pattern is matched by listing its ends. -/
  plain : name ≠ Lexicon.regexRepeat
  /-- Something is left behind the match. -/
  first : ∀ c cs, told c = true → ∃ rest, (Lexicon.bodyOf name).first? (c :: cs) = some rest ∧
    rest.length ≤ cs.length

theorem MatchesAll.equals : MatchesAll "=" (· = '=') := by
  refine ⟨by decide, by decide, fun c cs hc => ⟨cs, ?_, Nat.le_refl _⟩⟩
  rw [of_decide_eq_true hc, Lexicon.first?_sign (c := '=') rfl, if_pos rfl]

theorem MatchesAll.number : MatchesAll Lexicon.number isDigit := by
  refine ⟨by decide, by decide, fun c cs hc =>
    ⟨cs.dropWhile isDigit, ?_, (List.dropWhile_suffix _).length_le⟩⟩
  rw [Lexicon.first?_number, if_pos hc]

/-- Where no rule matches, none of these characters comes first. -/
theorem MatchesAll.not_told {name : String} {told : Char → Bool} (hmatches : MatchesAll name told)
    (h : Lexicon.table = .ok table) {c : Char} {cs : List Char}
    (hunmatched : ∀ rule ∈ table.rulesInMode defaultMode, rule.matchLength? (c :: cs) = none) :
    told c = false := by
  by_contra htold
  have hmem := hmatches.mem
  rw [← Lexicon.names_rulesInMode h] at hmem
  obtain ⟨rule, hrule, rfl⟩ := List.mem_map.1 hmem
  obtain ⟨rest, hfirst, hle⟩ := hmatches.first c cs ((Bool.not_eq_false _).mp htold)
  have hnone := hunmatched rule hrule
  rw [Lexicon.matchLength?_eq h (List.mem_filter.1 hrule).1 hmatches.plain, Regex.Expr.takes?,
    hfirst] at hnone
  simp only [List.length_cons] at hnone
  rw [if_neg (by omega)] at hnone
  contradiction

/-- In a glance there is a token for each rule. -/
theorem contains_glance (span : Span) (text : String) (first : Rule) (others : List Rule)
    (name : String) :
    (Sighting.tokens (Scanner.glance span text first others)).contains name = true ↔
      ∃ rule ∈ first :: others, rule.name = name := by
  have htokens : (Scanner.glance span text first others).toList =
      (first :: others).map fun rule => ⟨rule.name, span, text, .unevaluated⟩ := rfl
  simp only [Sighting.contains, TokenSet.contains, TokenSet.find?, List.find?_isSome, htokens,
    decide_eq_true_eq]
  constructor
  · rintro ⟨token, htoken, hname⟩
    obtain ⟨rule, hrule, rfl⟩ := List.mem_map.1 htoken
    exact ⟨rule, hrule, hname⟩
  · rintro ⟨rule, hrule, hname⟩
    exact ⟨_, List.mem_map.2 ⟨rule, hrule, rfl⟩, hname⟩

/-- One step ahead in the notation proper shows the rules that the first character of the next word
tells. -/
theorem exists_stepAhead (h : Lexicon.table = .ok table) {scanner : Scanner}
    (htable : scanner.table = table) (hmode : scanner.mode = defaultMode) :
    ∃ seen there, scanner.stepAhead = .ok seen there ∧ ∀ name told, ToldBy name told →
      MatchesAll name told → seen.contains name = (lead scanner.place.rest).any told := by
  subst htable
  have hrules : scanner.rules = scanner.table.rulesInMode defaultMode := by
    rw [Scanner.rules, hmode]
  have hanchored : Anchored scanner.rules := Lexicon.anchored_mode h _
  obtain ⟨found, place, hfound⟩ : ∃ found place, scanner.finding = (found, place) := ⟨_, _, rfl⟩
  obtain ⟨hholds, gap, hpassed, hrest⟩ := Scanner.finding_holds hanchored hfound
  rw [hrules] at hholds hpassed
  -- What is found is found behind the gap.
  have hgap (hunpassable : Unpassable (scanner.table.rulesInMode defaultMode) place.rest) :
      behindGap scanner.place.rest = place.rest := by
    rw [hrest, behindGap_eq h hpassed hunpassable]
  generalize htext : place.rest = text at hholds hgap
  rw [Scanner.stepAhead, hfound]
  cases hholds with
  | atEnd ended =>
    refine ⟨_, _, rfl, fun name told _ _ => ?_⟩
    rw [lead, hgap (ended ▸ unpassable_nil _), ended]
    rfl
  | @unknown c cs split unmatched =>
    refine ⟨_, _, rfl, fun name told _ hmatches => ?_⟩
    have hunpassable : Unpassable (scanner.table.rulesInMode defaultMode) text :=
      fun _ hlongest => (hlongest.not_unmatched unmatched).elim
    rw [lead, hgap hunpassable, split]
    rw [split] at unmatched
    exact (hmatches.not_told h unmatched).symm
  | @mixed count longest ignored kept =>
    have hunpassable : Unpassable (scanner.table.rulesInMode defaultMode) text := by
      intro other hother
      obtain rfl := longest.unique hother
      exact kept
    have hsolid := behindGap_behindGap scanner.place.rest
    rw [hgap hunpassable] at hsolid
    obtain ⟨rule, hrule, hignored⟩ := ignored
    obtain ⟨hmem, hcount⟩ := List.mem_filter.1 hrule
    rw [kept_of_behindGap h hsolid (List.mem_filter.1 hmem).1 (of_decide_eq_true hcount)] at hignored
    contradiction
  | @lexeme first others count longest attained kept =>
    refine ⟨_, _, rfl, fun name told htold _ => ?_⟩
    have hunpassable : Unpassable (scanner.table.rulesInMode defaultMode) text := by
      intro other hother
      obtain rfl := longest.unique hother
      obtain ⟨rule, hrule⟩ := List.exists_mem_of_ne_nil _ longest.tied_ne_nil
      exact ⟨rule, hrule, kept rule hrule⟩
    have hsolid := behindGap_behindGap scanner.place.rest
    rw [hgap hunpassable] at hsolid
    rw [Bool.eq_iff_iff, contains_glance, lead, hgap hunpassable, ← attained]
    cases text with
    | nil =>
      have hbounds := longest.bounds
      simp only [List.length_nil] at hbounds
      omega
    | cons c cs => exact htold.tied_iff h hsolid longest

namespace Parser

variable {parser : Parser} {text : List Char}

/-- The parser foresees two words just if it sees the first one and the text behind that leads with
the second one. -/
theorem Stands.foresees_iff {first second : String} {told : Char → Bool} {found : Bool}
    (h : parser.Stands [] text) (htold : ToldBy second told) (hmatches : MatchesAll second told) :
    parser.Foresees [first, second] found ↔
      found = (parser.sees first && (lead parser.scanner.place.rest).any told) := by
  have hmode : parser.scanner.mode = defaultMode := by
    rw [Scanner.mode, h.entered_eq]
    rfl
  obtain ⟨seen, there, hstep, hseen⟩ := exists_stepAhead h.table rfl hmode
  rw [Foresees, Scanner.matchesSequence]
  cases hfirst : parser.scanner.matching? first with
  | none =>
    have hsees : parser.sees first = false := by
      rw [sees, Scanner.matchesRule, hfirst]
      rfl
    simp [hsees, eq_comm]
  | some token =>
    have hsees : parser.sees first = true := by
      rw [sees, Scanner.matchesRule, hfirst]
      rfl
    obtain ⟨set, hcurrent⟩ : ∃ set, parser.scanner.current = some set := by
      cases hcurrent : parser.scanner.current with
      | none => simp [Scanner.matching?, hcurrent] at hfirst
      | some set => exact ⟨set, rfl⟩
    have hlook : parser.scanner.lookAhead 1 = .ok [seen] parser.scanner := by
      simp [Scanner.lookAhead, Scanner.sighting, hcurrent, Scanner.stepsAhead, hstep, Outcome.map]
    rw [hsees, ← hseen second told htold hmatches]
    simp only [List.isEmpty_cons, Bool.false_eq_true, if_false, List.length_cons, List.length_nil,
      Nat.zero_add, hlook, Outcome.map, Outcome.ok.injEq]
    cases hcontains : seen.contains second <;> simp [hcontains, eq_comm]

end Parser

end GrammarLang.Grammar

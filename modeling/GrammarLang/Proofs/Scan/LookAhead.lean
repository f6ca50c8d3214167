import GrammarLang.Proofs.Scan.Run
import GrammarLang.Proofs.Scan.Tokenize

/-! # Looking ahead is advancing without values

A scanner that looks ahead sees what a copy of it finds that advances by the same rules without
their decoders. **`Foretells`** says how what is seen goes with what becomes of the copy, and
**`peek_foretells`** that it does so any number of places ahead of every scanner that can be
reached. -/

namespace GrammarLang.Scan

open GrammarLang.Text

/-! ## Rules without decoders -/

/-- The rule without its decoder. -/
def Rule.withoutDecoder (rule : Rule) : Rule := { rule with decoder := none }

/-- The table with the decoders of all rules removed. -/
def RuleTable.withoutDecoders (table : RuleTable) : RuleTable :=
  { table with rules := table.rules.map Rule.withoutDecoder }

/-- The token without its value. -/
def Token.unevaluated (token : Token) : Token := { token with value := .unevaluated }

/-- The token set without the values of its tokens. -/
def TokenSet.unevaluated (set : TokenSet) : TokenSet :=
  ⟨set.first.unevaluated, set.others.map Token.unevaluated⟩

/-- What is seen, without values. -/
def Sighting.unevaluated : Sighting → Sighting
  | .tokens set => .tokens set.unevaluated
  | .atEnd => .atEnd
  | .unknown => .unknown

/-- The finding with other rules in place of its own. -/
def Finding.map (change : Rule → Rule) : Finding → Finding
  | .atEnd => .atEnd
  | .unknown c => .unknown c
  | .misplaced rule => .misplaced (change rule)
  | .mixed rules count => .mixed (rules.map change) count
  | .lexeme first others count => .lexeme (change first) (others.map change) count

@[simp] theorem rulesInMode_withoutDecoders (table : RuleTable) (mode : String) :
    table.withoutDecoders.rulesInMode mode =
      (table.rulesInMode mode).map Rule.withoutDecoder := by
  simp only [RuleTable.rulesInMode, RuleTable.withoutDecoders, List.filter_map]
  rfl

/-- A decoder has no say in what its rule matches. -/
theorem matchesAt_withoutDecoder {text : List Char} (start : Regex.Spot text) (rules : List Rule) :
    matchesAt start (rules.map Rule.withoutDecoder) =
      match matchesAt start rules with
      | .ok found => .ok (found.map fun entry => (entry.1.withoutDecoder, entry.2))
      | .error rule => .error rule.withoutDecoder := by
  induction rules with
  | nil => rfl
  | cons rule rules ih =>
    have hmatch : rule.withoutDecoder.matchAt start = rule.matchAt start := rfl
    simp only [List.map_cons, matchesAt, hmatch]
    cases rule.matchAt start with
    | none => exact ih
    | misplaced => rfl
    | chars count =>
      simp only [ih]
      cases matchesAt start rules <;> rfl

/-- The longest match is that of the same rules. -/
theorem longest_withoutDecoder {text : List Char} (start : Regex.Spot text) (rules : List Rule) :
    longest (rules.map Rule.withoutDecoder) start =
      match longest rules start with
      | .ok (count, winners) => .ok (count, winners.map Rule.withoutDecoder)
      | .error rule => .error rule.withoutDecoder := by
  rw [longest, matchesAt_withoutDecoder, longest]
  cases matchesAt start rules with
  | error rule => rfl
  | ok found =>
    have hbest : Matches.best (found.map fun entry => (entry.1.withoutDecoder, entry.2)) =
        Matches.best found := by
      simp only [Matches.best, List.foldr_map]
    simp only [Except.map, hbest, Matches.winners, List.filter_map, List.map_map]
    rfl

/-- A decoder has no say in whether its rule ignores text. -/
theorem all_ignored_withoutDecoder (rules : List Rule) :
    (rules.map Rule.withoutDecoder).all Rule.ignored = rules.all Rule.ignored := by
  rw [List.all_map]
  rfl

theorem any_ignored_withoutDecoder (rules : List Rule) :
    (rules.map Rule.withoutDecoder).any Rule.ignored = rules.any Rule.ignored := by
  rw [List.any_map]
  rfl

/-- A scan by rules without decoders finds the same at the same place. -/
theorem scan_withoutDecoder {source : Source} (rules : List Rule) (here : Cursor source) :
    scan (rules.map Rule.withoutDecoder) here =
      ((scan rules here).1.map Rule.withoutDecoder, (scan rules here).2) := by
  have hlongest := longest_withoutDecoder (spotAt here) rules
  fun_induction scan rules here with
  | case1 here hrest =>
    rw [scan]
    split
    · rfl
    · simp_all
  | case5 here c cs hrest count first others hfound hall ih =>
    rw [← all_ignored_withoutDecoder, List.map_cons] at hall
    rw [scan]
    split
    · simp_all
    · simp only [hlongest, hfound, List.map_cons, if_pos hall]
      exact ih (longest_withoutDecoder _ rules)
  | case6 here c cs hrest count first others hfound hall hany =>
    rw [← all_ignored_withoutDecoder, List.map_cons] at hall
    rw [← any_ignored_withoutDecoder, List.map_cons] at hany
    rw [scan]
    split
    · simp_all
    · simp only [hlongest, hfound, List.map_cons, if_neg hall, if_pos hany]
      rfl
  | case7 here c cs hrest count first others hfound hall hany =>
    rw [← all_ignored_withoutDecoder, List.map_cons] at hall
    rw [← any_ignored_withoutDecoder, List.map_cons] at hany
    rw [scan]
    split
    · simp_all
    · simp only [hlongest, hfound, List.map_cons, if_neg hall, if_neg hany]
      rfl
  | _ here =>
    rw [scan]
    split
    · simp_all
    · simp_all [Finding.map]

namespace Scanner

/-! ## The copy -/

/-- A copy of the scanner that works by the same rules without their decoders. -/
def withoutDecoders (scanner : Scanner) : Scanner :=
  { scanner with table := scanner.table.withoutDecoders }

/-- Advances several times; the first failure ends it. -/
def nextTimes (scanner : Scanner) : (count : Nat) → Outcome Unit
  | 0 => .ok () scanner
  | count + 1 =>
    match scanner.next with
    | .ok _ after => after.nextTimes count
    | .failed error after => .failed error after

/-- A copy that stands where the scanner stands, in the same modes. What it holds, has kept and has
told may differ. -/
def Follows (copy scanner : Scanner) : Prop :=
  ∃ previousEnd current recorded told,
    copy = { scanner.withoutDecoders with previousEnd, current, recorded, told }

/-- The copy follows the scanner to begin with. -/
theorem follows_withoutDecoders (scanner : Scanner) : scanner.withoutDecoders.Follows scanner :=
  ⟨_, _, _, _, rfl⟩

/-- How what is seen ahead goes with what becomes of the copy: what it comes to stand at is seen
without values, text that no rule matches is seen as such, and rules that disagree on whether to
ignore a text, or match elsewhere, are a failure of both. -/
inductive Foretells : Outcome Unit → Except Error Sighting → Prop
  /-- The copy stands at a token set, or at the end. -/
  | reached (after : Scanner) : Foretells (.ok () after) (.ok after.sighting.unevaluated)
  /-- No rule matches. -/
  | unknown (found : Char) (position : Position) (after : Scanner) :
      Foretells (.failed (.invalidToken found position) after) (.ok .unknown)
  /-- The rules that attain the longest match disagree. -/
  | mixed (text : String) (rules : List String) (position : Position) (after : Scanner) :
      Foretells (.failed (.ambiguousIgnore text rules position) after)
        (.error (.ambiguousIgnore text rules position))
  /-- A rule matches elsewhere. -/
  | misplaced (rule : String) (after : Scanner) :
      Foretells (.failed (.misplacedMatch rule) after) (.error (.misplacedMatch rule))

/-- Looking ahead does not fail on the values of tokens. -/
theorem Foretells.ne_decode {outcome : Outcome Unit} {seen : Except Error Sighting}
    (h : Foretells outcome seen) (rule text reason : String) (position : Position) :
    seen ≠ .error (.decode rule text reason position) := by
  cases h <;> simp

/-! ## One step -/

/-- What a copy finds is what the scanner finds, and at the same place. -/
theorem finding_withoutDecoders (scanner : Scanner) :
    scanner.withoutDecoders.finding =
      (scanner.finding.1.map Rule.withoutDecoder, scanner.finding.2) := by
  simp only [finding, rules, withoutDecoders, mode, rulesInMode_withoutDecoders]
  exact scan_withoutDecoder _ _

/-- A rule without a decoder gives every text a token. -/
theorem mapM_evaluate_withoutDecoder (source : Source) (span : Span) (text : String)
    (rules : List Rule) :
    (rules.map Rule.withoutDecoder).mapM (evaluate source span text) =
      .ok (rules.map fun rule => ⟨rule.name, span, text, .text text⟩) := by
  induction rules with
  | nil => rfl
  | cons rule rules ih =>
    rw [List.map_cons, List.mapM_cons, ih]
    rfl

/-- Rules without decoders give the token set that is glanced at, up to values. -/
theorem evaluateAll_withoutDecoder (source : Source) (span : Span) (text : String) (first : Rule)
    (others : List Rule) :
    ∃ set, evaluateAll source span text first.withoutDecoder (others.map Rule.withoutDecoder) =
        .ok set ∧ set.unevaluated = glance span text first others := by
  refine ⟨⟨⟨first.name, span, text, .text text⟩,
    others.map fun rule => ⟨rule.name, span, text, .text text⟩⟩, ?_, ?_⟩
  · rw [evaluateAll, mapM_evaluate_withoutDecoder]
    rfl
  · simp [TokenSet.unevaluated, Token.unevaluated, glance]

/-- Stepping ahead keeps up with an advance of the copy. -/
theorem stepAhead_follows {copy scanner : Scanner} (h : copy.Follows scanner) :
    Foretells copy.advance scanner.stepAhead.result ∧
      ∀ after, copy.advance = .ok () after → after.Follows scanner.stepAhead.after := by
  obtain ⟨previousEnd, current, recorded, told, rfl⟩ := h
  have hfinding : Scanner.finding
      { scanner.withoutDecoders with previousEnd, current, recorded, told } =
        (scanner.finding.1.map Rule.withoutDecoder, scanner.finding.2) :=
    finding_withoutDecoders scanner
  rw [advance, hfinding, stepAhead]
  generalize scanner.finding = finding
  obtain ⟨found, place⟩ := finding
  cases found with
  | atEnd =>
    refine ⟨.reached _, fun after hafter => ?_⟩
    cases hafter
    exact ⟨_, _, _, _, rfl⟩
  | unknown c => exact ⟨.unknown _ _ _, fun _ hafter => by cases hafter⟩
  | misplaced rule => exact ⟨.misplaced _ _, fun _ hafter => by cases hafter⟩
  | mixed rules count =>
    have hnames : (rules.map Rule.withoutDecoder).map Rule.name = rules.map Rule.name := by
      rw [List.map_map]
      rfl
    simp only [Finding.map, hnames]
    exact ⟨.mixed _ _ _ _, by simp⟩
  | lexeme first others count =>
    obtain ⟨set, hset, hglance⟩ := evaluateAll_withoutDecoder scanner.withoutDecoders.source
      (place.span count) (place.text count) first others
    simp only [Finding.map, ← hglance]
    split
    · rename_i error herror
      exact absurd (hset.symm.trans herror) (by simp)
    · rename_i set' hset'
      obtain rfl : set = set' := Except.ok.inj (hset.symm.trans hset')
      refine ⟨.reached _, fun after hafter => ?_⟩
      cases hafter
      exact ⟨_, _, _, _, rfl⟩

/-- Stepping ahead keeps up with a copy that consumes its token set. -/
theorem stepAhead_follows_next {copy scanner : Scanner} (h : copy.Follows scanner) :
    Foretells copy.next scanner.stepAhead.result ∧
      ∀ after, copy.next = .ok () after → after.Follows scanner.stepAhead.after := by
  have hbehind : copy.behindCurrent.Follows scanner := by
    obtain ⟨previousEnd, current, recorded, told, rfl⟩ := h
    exact ⟨_, _, _, _, rfl⟩
  rw [next_eq]
  exact stepAhead_follows hbehind

/-! ## Several steps -/

/-- Behind the end of the text there is nothing to advance to. -/
theorem next_of_rest_eq_nil {scanner : Scanner} (h : scanner.place.rest = []) :
    scanner.next = .ok () { scanner.behindCurrent with current := none } := by
  rw [next_eq, advance, finding_of_rest_eq_nil (show scanner.behindCurrent.place.rest = [] from h)]

theorem nextTimes_of_rest_eq_nil {scanner : Scanner} (h : scanner.place.rest = []) (count : Nat) :
    ∃ after, scanner.nextTimes (count + 1) = .ok () after ∧ after.current = none := by
  induction count generalizing scanner with
  | zero =>
    rw [nextTimes, next_of_rest_eq_nil h]
    exact ⟨_, rfl, rfl⟩
  | succ count ih =>
    rw [nextTimes, next_of_rest_eq_nil h]
    exact ih h

/-- At the end of the text a step ahead leaves no text. -/
theorem rest_of_stepAhead_eq_atEnd {scanner there : Scanner}
    (h : scanner.stepAhead = .ok .atEnd there) : there.place.rest = [] := by
  simp only [stepAhead] at h
  split at h
  · rename_i place hfound
    cases h
    exact rest_of_scan_eq_atEnd hfound
  all_goals simp at h

/-- What is seen where looking ahead starts. -/
inductive Sees (scanner : Scanner) : Sighting → Prop
  /-- A token set, so that there may be more to see. -/
  | tokens (set : TokenSet) : Sees scanner (.tokens set)
  /-- The end of the text. -/
  | atEnd (ended : scanner.place.rest = []) : Sees scanner .atEnd

/-- Behind the end of the text the end is seen again, and the copy stays there. -/
theorem stepsAhead_atEnd_follows {copy scanner : Scanner} (h : copy.Follows scanner)
    (ended : scanner.place.rest = []) (count : Nat) (default : Sighting) :
    Foretells (copy.nextTimes (count + 1))
      ((scanner.stepsAhead .atEnd (count + 1)).map (·.getLast?.getD default)).result := by
  obtain ⟨previousEnd, current, recorded, told, rfl⟩ := h
  let copy := { scanner.withoutDecoders with previousEnd, current, recorded, told }
  obtain ⟨after, hafter, hnone⟩ :=
    nextTimes_of_rest_eq_nil (show copy.place.rest = [] from ended) count
  have hsighting : after.sighting = .atEnd := by rw [sighting, hnone]
  have hreached := Foretells.reached after
  rw [hafter]
  rw [hsighting] at hreached
  simpa [stepsAhead, Outcome.map, Outcome.result, List.getLast?_replicate,
    Sighting.unevaluated] using hreached

/-- What is seen last of several places ahead goes with what becomes of a copy that advances as
often. -/
theorem stepsAhead_follows {copy scanner : Scanner} {last : Sighting} (h : copy.Follows scanner)
    (hlast : scanner.Sees last) (count : Nat) (default : Sighting) :
    Foretells (copy.nextTimes (count + 1))
      ((scanner.stepsAhead last (count + 1)).map (·.getLast?.getD default)).result := by
  induction count generalizing copy scanner last default with
  | zero =>
    cases hlast with
    | atEnd ended => exact stepsAhead_atEnd_follows h ended 0 default
    | tokens set =>
      have hstep := (stepAhead_follows_next h).1
      simp only [nextTimes, stepsAhead]
      cases hseen : scanner.stepAhead <;> cases hnext : copy.next <;>
        simpa [hseen, hnext, Outcome.map, Outcome.result] using hstep
  | succ count ih =>
    cases hlast with
    | atEnd ended => exact stepsAhead_atEnd_follows h ended (count + 1) default
    | tokens set =>
      obtain ⟨hstep, hfollows⟩ := stepAhead_follows_next h
      rw [nextTimes, stepsAhead]
      cases hseen : scanner.stepAhead with
      | failed error there =>
        rw [hseen] at hstep
        cases hnext : copy.next with
        | ok _ after => rw [hnext] at hstep; cases hstep
        | failed error' after => rw [hnext] at hstep; exact hstep
      | ok seen there =>
        rw [hseen] at hstep hfollows
        -- The first place is seen and left behind; the list that comes of the others is not empty.
        have hlater : ((there.stepsAhead seen (count + 1)).map (seen :: ·)).map
            (·.getLast?.getD default) =
              (there.stepsAhead seen (count + 1)).map (·.getLast?.getD seen) := by
          cases there.stepsAhead seen (count + 1) <;> simp [Outcome.map, List.getLast?_cons]
        simp only [hlater]
        cases hnext : copy.next with
        | ok _ after =>
          rw [hnext] at hstep
          have hafter := hfollows after hnext
          refine ih hafter ?_ seen
          have hseen' : seen = after.sighting.unevaluated := by cases hstep; rfl
          cases seen with
          | tokens set' => exact .tokens set'
          | atEnd => exact .atEnd (rest_of_stepAhead_eq_atEnd hseen)
          | unknown =>
            rw [sighting] at hseen'
            split at hseen' <;> cases hseen'
        | failed error after =>
          rw [hnext] at hstep
          simp only [Outcome.result] at hstep
          cases hstep
          simpa [stepsAhead, Outcome.map, Outcome.result, List.getLast?_replicate] using
            Foretells.unknown _ _ _

/-! ## Looking ahead from a scanner that can be reached -/

/-- Looking ahead comes to what its steps come to. -/
theorem result_lookAhead (scanner : Scanner) (count : Nat) :
    (scanner.lookAhead count).result = (scanner.stepsAhead scanner.sighting count).result := by
  rw [lookAhead]
  split
  all_goals
    rename_i hsteps
    simp only [hsteps, Outcome.result]

theorem result_map {α β : Type} (change : α → β) (outcome : Outcome α) :
    (outcome.map change).result = outcome.result.map change := by
  cases outcome <;> rfl

/-- A settled scanner sees its token set, or the end. -/
theorem sees_sighting {scanner : Scanner} (h : scanner.Settled) : scanner.Sees scanner.sighting := by
  rw [sighting]
  split
  · exact .tokens _
  · rename_i hnone
    exact .atEnd (h hnone)

/-- From a settled scanner, what is seen ahead is what the copy comes to. -/
theorem foretells_peek {scanner : Scanner} (h : scanner.Settled) (count : Nat) :
    Foretells (scanner.withoutDecoders.nextTimes (count + 1))
      (scanner.peek (count + 1)).result := by
  have hsteps := stepsAhead_follows scanner.follows_withoutDecoders (sees_sighting h) count
    scanner.sighting
  rwa [result_map, ← result_lookAhead, ← result_map] at hsteps

/-- Unless a match is misplaced, looking ahead leaves the scanner as it is. -/
theorem after_peek (scanner : Scanner) (count : Nat) :
    (scanner.peek count).after = scanner ∨
      ∃ rule, (scanner.peek count).result = .error (.misplacedMatch rule) := by
  rw [peek, after_map, result_map]
  rcases after_lookAhead scanner count with hsame | ⟨⟨rule, hrule⟩, -⟩
  · exact .inl hsame
  · exact .inr ⟨rule, by rw [hrule]; rfl⟩

/-- Another token set follows just if the copy comes to stand at one. -/
theorem hasNext_iff {scanner : Scanner} (h : scanner.Settled) :
    scanner.hasNext.result = .ok true ↔
      ∃ after, scanner.withoutDecoders.next = .ok () after ∧ after.current.isSome = true := by
  rw [hasNext]
  split
  · rename_i hend
    have hrest := h (by simpa [atEnd] using hend)
    rw [next_of_rest_eq_nil (show scanner.withoutDecoders.place.rest = [] from hrest)]
    simp [Outcome.result]
  · have hpeek := foretells_peek h 0
    rw [result_map]
    rw [nextTimes] at hpeek
    cases hnext : scanner.withoutDecoders.next with
    | failed error after =>
      rw [hnext] at hpeek
      generalize (scanner.peek 1).result = seen at hpeek
      cases hpeek <;> simp [Except.map]
    | ok _ after =>
      rw [hnext] at hpeek
      generalize (scanner.peek 1).result = seen at hpeek
      cases hpeek
      rw [sighting]
      cases hcurrent : after.current <;> simp [Except.map, Sighting.unevaluated, hcurrent]

/-- Unless a match is misplaced, asking for another token set leaves the scanner as it is. -/
theorem after_hasNext (scanner : Scanner) :
    scanner.hasNext.after = scanner ∨
      ∃ rule, scanner.hasNext.result = .error (.misplacedMatch rule) := by
  rw [hasNext]
  split
  · exact .inl rfl
  · rw [after_map, result_map]
    rcases after_peek scanner 1 with hsame | ⟨rule, hrule⟩
    · exact .inl hsame
    · exact .inr ⟨rule, by rw [hrule]; rfl⟩

end Scanner

/-- **Looking ahead agrees with advancing.** What is seen any number of places ahead of a scanner is
what a copy without decoders comes to, so that it never hinges on the value of a token. Another
token set follows just if the copy comes to stand at one. The scanner is left as it is, on failure
as on success; only at a misplaced match, which is a defect of its rule, does everything stop. -/
theorem peek_foretells {table : RuleTable} {source : Source} {scanner : Scanner}
    (h : Reachable table source scanner) {count : Nat} (hcount : 0 < count) :
    Scanner.Foretells (scanner.withoutDecoders.nextTimes count) (scanner.peek count).result ∧
    (∀ rule text reason position,
      (scanner.peek count).result ≠ .error (.decode rule text reason position)) ∧
    (scanner.hasNext.result = .ok true ↔
      ∃ after, scanner.withoutDecoders.next = .ok () after ∧ after.current.isSome = true) ∧
    ((scanner.peek count).after = scanner ∨
      ∃ rule, (scanner.peek count).result = .error (.misplacedMatch rule)) ∧
    (scanner.hasNext.after = scanner ∨
      ∃ rule, scanner.hasNext.result = .error (.misplacedMatch rule)) := by
  obtain ⟨count, rfl⟩ : ∃ before, count = before + 1 := ⟨count - 1, by omega⟩
  have hforetells := Scanner.foretells_peek h.settled count
  exact ⟨hforetells, hforetells.ne_decode, Scanner.hasNext_iff h.settled, scanner.after_peek _,
    scanner.after_hasNext⟩

/-- Text is seen ahead that the next token set has no value for. -/
theorem peek_foretells_refused : ∃ table scanner,
    RuleTable.compile "words" true [{ name := "word", matcher := .regex "[a-z]+" },
      { name := "number", matcher := .regex "[0-9]+",
        decoder := some fun _ => .error "no number" },
      { name := "blank", matcher := .regex " +", ignored := true }] = .ok table ∧
    Reachable table (.ofString "one 2") scanner ∧ (0 < 1) ∧
    scanner.next.result = .error (.decode "number" "2" "no number" ⟨1, 5⟩) ∧
    Scanner.Foretells (scanner.withoutDecoders.nextTimes 1) (scanner.peek 1).result ∧
    scanner.hasNext.result = .ok true := by
  have hrun : (RuleTable.compile "words" true [{ name := "word", matcher := .regex "[a-z]+" },
      { name := "number", matcher := .regex "[0-9]+",
        decoder := some fun _ => .error "no number" },
      { name := "blank", matcher := .regex " +", ignored := true }]).toOption.any (fun table =>
        match Scanner.create table (.ofString "one 2") with
        | .ok _ scanner =>
          match scanner.next, scanner.withoutDecoders.next with
          | .failed error _, .ok _ after =>
            error = .decode "number" "2" "no number" ⟨1, 5⟩ && after.current.isSome
          | _, _ => false
        | .failed _ _ => false) = true := by decide +kernel
  obtain ⟨table, htable, hscan⟩ := (Option.any_eq_true _ _).1 hrun
  split at hscan
  · rename_i scanner hcreate
    split at hscan
    · rename_i error there _ after hnext hcopy
      simp only [Bool.and_eq_true, decide_eq_true_eq] at hscan
      obtain ⟨rfl, hsome⟩ := hscan
      have hreachable : Reachable table (.ofString "one 2") scanner := .create hcreate
      obtain ⟨hforetells, -, hmore, -⟩ := peek_foretells hreachable Nat.one_pos
      exact ⟨table, scanner, ok_of_toOption htable, hreachable, by decide, by rw [hnext]; rfl,
        hforetells, hmore.2 ⟨after, hcopy, hsome⟩⟩
    · simp at hscan
  · simp at hscan

end GrammarLang.Scan

import GrammarLang.Proofs.Scan.Found

/-! # Advancing, told by the rules

An advance of the scanner passes over a gap and then stands at the end of the text, at a token set,
or before text that makes it fail. **`advance_munch`** and **`advance_fails`** say so in the terms
of `Munch` and `Fails`, where the rules of the mode are anchored. -/

namespace GrammarLang.Scan

open GrammarLang.Text

namespace Scanner

/-- The place of a scanner: the bytes before it and the text behind it. -/
def spot (scanner : Scanner) : Nat × List Char := (scanner.place.offset, scanner.place.rest)

/-! ## The values of tokens -/

/-- A rule gives a token for a text just if it does not refuse the text. -/
theorem evaluate_eq_ok_iff {source : Source} {offset : Nat} {front : List Char} {rule : Rule}
    {token : Token} :
    evaluate source ⟨offset, offset + byteSize front⟩ (String.ofList front) rule = .ok token ↔
      Reads offset front rule token := by
  simp only [evaluate, Reads]
  cases rule.evaluate (String.ofList front) with
  | ok value => simp [eq_comm]
  | error reason => simp

/-- Some rules give tokens for a text just if each of them gives one. -/
theorem mapM_evaluate_eq_ok_iff (source : Source) {offset : Nat} {front : List Char}
    {rules : List Rule} {tokens : List Token} :
    rules.mapM (evaluate source ⟨offset, offset + byteSize front⟩ (String.ofList front)) =
        .ok tokens ↔ List.Forall₂ (Reads offset front) rules tokens := by
  induction rules generalizing tokens with
  | nil => simp [pure, Except.pure, eq_comm]
  | cons rule rules ih =>
    rw [List.mapM_cons, List.forall₂_cons_left_iff]
    constructor
    · intro h
      cases hfirst : evaluate source ⟨offset, offset + byteSize front⟩ (String.ofList front) rule with
      | error error => simp [hfirst, bind, Except.bind] at h
      | ok token =>
        cases hothers : rules.mapM
            (evaluate source ⟨offset, offset + byteSize front⟩ (String.ofList front)) with
        | error error => simp [hfirst, hothers, bind, Except.bind] at h
        | ok others =>
          simp only [hfirst, hothers, bind, Except.bind, pure, Except.pure, Except.ok.injEq] at h
          exact ⟨token, others, evaluate_eq_ok_iff.1 hfirst, ih.1 hothers, h.symm⟩
    · rintro ⟨token, others, hfirst, hothers, rfl⟩
      simp [evaluate_eq_ok_iff.2 hfirst, ih.2 hothers, bind, Except.bind, pure, Except.pure]

/-- Some rules give no tokens for a text when one refuses it, and the first one to do so is told. -/
theorem mapM_evaluate_eq_error {source : Source} {offset : Nat} {front : List Char}
    {rules : List Rule} {error : Error}
    (h : rules.mapM (evaluate source ⟨offset, offset + byteSize front⟩ (String.ofList front)) =
      .error error) :
    ∃ before rule behind reason, rules = before ++ rule :: behind ∧
      (∀ other ∈ before, ∃ value, other.evaluate (String.ofList front) = .ok value) ∧
      rule.evaluate (String.ofList front) = .error reason ∧
      error = .decode rule.name (String.ofList front) reason (source.position offset) := by
  induction rules with
  | nil => simp [pure, Except.pure] at h
  | cons rule rules ih =>
    rw [List.mapM_cons] at h
    cases hvalue : rule.evaluate (String.ofList front) with
    | error reason =>
      refine ⟨[], rule, rules, reason, rfl, by simp, hvalue, ?_⟩
      simpa [evaluate, hvalue, bind, Except.bind, eq_comm] using h
    | ok value =>
      have hothers : rules.mapM
          (evaluate source ⟨offset, offset + byteSize front⟩ (String.ofList front)) =
            .error error := by
        cases hall : rules.mapM
            (evaluate source ⟨offset, offset + byteSize front⟩ (String.ofList front)) with
        | error other => simpa [evaluate, hvalue, hall, bind, Except.bind] using h
        | ok tokens => simp [evaluate, hvalue, hall, bind, Except.bind, pure, Except.pure] at h
      obtain ⟨before, refusing, behind, reason, rfl, haccepted, hrefusal, herror⟩ := ih hothers
      refine ⟨rule :: before, refusing, behind, reason, rfl, ?_, hrefusal, herror⟩
      intro other hother
      rcases List.mem_cons.1 hother with rfl | hmem
      · exact ⟨value, hvalue⟩
      · exact haccepted other hmem

/-- All readings of a stretch of text are made together. -/
theorem evaluateAll_eq (source : Source) (span : Span) (text : String) (first : Rule)
    (others : List Rule) :
    (evaluateAll source span text first others).map TokenSet.toList =
      (first :: others).mapM (evaluate source span text) := by
  rw [List.mapM_cons, evaluateAll]
  cases evaluate source span text first with
  | error error => rfl
  | ok token =>
    cases others.mapM (evaluate source span text) with
    | error error => rfl
    | ok tokens => rfl

/-- A token set is made just if each rule gives one of its tokens. -/
theorem evaluateAll_eq_ok_iff (source : Source) {offset : Nat} {front : List Char} {first : Rule}
    {others : List Rule} {set : TokenSet} :
    evaluateAll source ⟨offset, offset + byteSize front⟩ (String.ofList front) first others =
        .ok set ↔ List.Forall₂ (Reads offset front) (first :: others) set.toList := by
  rw [← mapM_evaluate_eq_ok_iff source, ← evaluateAll_eq]
  constructor
  · intro h
    rw [h]
    rfl
  · intro h
    cases hall : evaluateAll source ⟨offset, offset + byteSize front⟩ (String.ofList front) first
        others with
    | error error => simp [hall, Except.map] at h
    | ok other =>
      obtain ⟨token, tokens⟩ := set
      obtain ⟨token', tokens'⟩ := other
      simp only [hall, Except.map, TokenSet.toList, Except.ok.injEq, List.cons.injEq] at h
      obtain ⟨rfl, rfl⟩ := h
      rfl

/-- Why no token set is made. -/
theorem evaluateAll_eq_error {source : Source} {offset : Nat} {front : List Char} {first : Rule}
    {others : List Rule} {error : Error}
    (h : evaluateAll source ⟨offset, offset + byteSize front⟩ (String.ofList front) first others =
      .error error) :
    ∃ before rule behind reason, first :: others = before ++ rule :: behind ∧
      (∀ other ∈ before, ∃ value, other.evaluate (String.ofList front) = .ok value) ∧
      rule.evaluate (String.ofList front) = .error reason ∧
      error = .decode rule.name (String.ofList front) reason (source.position offset) := by
  apply mapM_evaluate_eq_error
  rw [← evaluateAll_eq, h]
  rfl

/-! ## The ends of an advance -/

/-- The text at a place splits behind a longest match, which is as long as counted. -/
theorem IsLongest.split {rules : List Rule} {text : List Char} {count : Nat}
    (h : IsLongest rules text count) :
    ∃ front rest, text = front ++ rest ∧ front = text.take count ∧ rest = text.drop count ∧
      front.length = count :=
  ⟨text.take count, text.drop count, (List.take_append_drop count text).symm, rfl, rfl, by
    rw [List.length_take, Nat.min_eq_left h.bounds.2]⟩

/-- Where text is passed over up to another place, that place is as many bytes further. -/
theorem offset_of_rest_eq {source : Source} {here there : Cursor source} {gap : List Char}
    (h : here.rest = gap ++ there.rest) : there.offset = here.offset + byteSize gap := by
  have hhere := here.offset_eq
  have hthere := there.offset_eq
  rw [h, byteSize_append] at hhere
  omega

/-- What a scanner finds holds at the place where it is found, and is behind a gap. -/
theorem finding_holds {scanner : Scanner} (hrules : Anchored scanner.rules) {found : Finding}
    {place : Cursor scanner.source} (h : scanner.finding = (found, place)) :
    found.Holds scanner.rules place.rest ∧
      ∃ gap, Passed scanner.rules place.rest gap ∧ scanner.place.rest = gap ++ place.rest := by
  have hscan := scan_holds hrules scanner.place
  rw [finding] at h
  rwa [h] at hscan

/-- A gap leads from one place to another. -/
theorem munch_gap {rules : List Rule} {source : Source} {here there : Cursor source}
    {gap : List Char} (hpassed : Passed rules there.rest gap)
    (hsplit : here.rest = gap ++ there.rest) :
    Munch rules (here.offset, here.rest) [] (there.offset, there.rest) := by
  rw [offset_of_rest_eq hsplit, hsplit]
  exact .last hpassed

/-- A token set is found behind a gap. -/
theorem first_lexeme {rules others : List Rule} {first : Rule} {source : Source}
    {here there : Cursor source} {gap : List Char} {count : Nat} {set : TokenSet}
    (hpassed : Passed rules there.rest gap) (hsplit : here.rest = gap ++ there.rest)
    (hholds : (Finding.lexeme first others count).Holds rules there.rest)
    (hset : evaluateAll source (there.span count) (there.text count) first others = .ok set) :
    First rules (here.offset, here.rest) (some set)
      ((there.skip count).offset, (there.skip count).rest) := by
  cases hholds with
  | lexeme longest attained kept =>
    obtain ⟨front, rest, htext, hfront, hrest, hlength⟩ := IsLongest.split longest
    have hread : List.Forall₂ (Reads there.offset front) (first :: others) set.toList := by
      rw [← evaluateAll_eq_ok_iff source, hfront]
      exact hset
    have hoffset := offset_of_rest_eq hsplit
    rw [← attained] at hread
    rw [← hlength, htext] at longest kept hread
    rw [htext] at hpassed hsplit
    rw [hoffset] at hread
    have hfirst := First.lexeme hpassed ⟨longest, kept⟩ hread
    rw [hsplit]
    simpa only [Cursor.skip, ← hfront, ← hrest, hoffset] using hfirst

/-- An advance that succeeds stands at the first token set of the text before it, right before the
text behind the set. Of the rest of the scanner only the record changes. -/
theorem advance_first {scanner after : Scanner} (hrules : Anchored scanner.rules)
    (h : scanner.advance = .ok () after) :
    First scanner.rules scanner.spot after.current after.spot ∧
      after.table = scanner.table ∧ after.source = scanner.source ∧
      after.entered = scanner.entered ∧ after.previousEnd = scanner.previousEnd ∧
      after.recorded = scanner.recorded.map (after.current.toList ++ ·) := by
  simp only [advance] at h
  split at h
  · rename_i place hfound
    obtain ⟨hholds, gap, hpassed, hsplit⟩ := finding_holds hrules hfound
    cases h
    refine ⟨?_, rfl, rfl, rfl, rfl, ?_⟩
    · cases hholds with
      | atEnd ended =>
        rw [ended, List.append_nil] at hsplit
        rw [ended] at hpassed
        have hplace : scanner.place.rest = gap ++ place.rest := by
          rw [ended, List.append_nil, hsplit]
        have hoffset := offset_of_rest_eq hplace
        simpa only [spot, hsplit, ended, hoffset] using First.atEnd hpassed
    · exact Option.map_id'.symm
  · contradiction
  · contradiction
  · contradiction
  · rename_i first others count place hfound
    obtain ⟨hholds, gap, hpassed, hsplit⟩ := finding_holds hrules hfound
    split at h
    · contradiction
    · rename_i set hset
      cases h
      exact ⟨first_lexeme hpassed hsplit hholds hset, rfl, rfl, rfl, rfl, rfl⟩

/-- An advance that succeeds cuts off a gap, and a token set behind it unless the text ends. -/
theorem advance_munch {scanner after : Scanner} (hrules : Anchored scanner.rules)
    (h : scanner.advance = .ok () after) :
    Munch scanner.rules scanner.spot after.current.toList after.spot ∧
      after.table = scanner.table ∧ after.source = scanner.source ∧
      after.entered = scanner.entered ∧ (after.current = none → after.place.rest = []) := by
  obtain ⟨hfirst, htable, hsource, hentered, -, -⟩ := advance_first hrules h
  exact ⟨hfirst.munch, htable, hsource, hentered, fun hnone => hfirst.rest_eq_nil hnone⟩

/-- An advance that fails cuts off a gap, and then fails as the rules say. -/
theorem advance_fails {scanner after : Scanner} {error : Error} (hrules : Anchored scanner.rules)
    (h : scanner.advance = .failed error after) :
    Munch scanner.rules scanner.spot [] after.spot ∧
      Fails scanner.rules scanner.source after.spot error := by
  simp only [advance] at h
  split at h
  · contradiction
  · rename_i c place hfound
    obtain ⟨hholds, gap, hpassed, hsplit⟩ := finding_holds hrules hfound
    cases h
    refine ⟨munch_gap hpassed hsplit, ?_⟩
    cases hholds with
    | unknown split unmatched =>
      simp only [spot]
      rw [split] at unmatched ⊢
      exact .unknown unmatched
  · rename_i rule place hfound
    obtain ⟨hholds, -⟩ := finding_holds hrules hfound
    cases hholds
  · rename_i rules count place hfound
    obtain ⟨hholds, gap, hpassed, hsplit⟩ := finding_holds hrules hfound
    cases h
    refine ⟨munch_gap hpassed hsplit, ?_⟩
    cases hholds with
    | mixed longest ignored kept =>
      obtain ⟨front, rest, htext, hfront, -, hlength⟩ := IsLongest.split longest
      simp only [spot, Cursor.text, Cursor.position, ← hfront]
      rw [← hlength, htext] at longest ignored kept ⊢
      exact .mixed longest ignored kept
  · rename_i first others count place hfound
    obtain ⟨hholds, gap, hpassed, hsplit⟩ := finding_holds hrules hfound
    split at h
    · rename_i refusal hset
      cases h
      refine ⟨munch_gap hpassed hsplit, ?_⟩
      cases hholds with
      | lexeme longest attained kept =>
        obtain ⟨front, rest, htext, hfront, -, hlength⟩ := IsLongest.split longest
        simp only [Cursor.span, Cursor.text, ← hfront] at hset
        obtain ⟨before, rule, behind, reason, horder, haccepted, hrefusal, rfl⟩ :=
          evaluateAll_eq_error hset
        rw [← attained] at horder
        simp only [spot]
        rw [← hlength, htext] at longest kept horder
        rw [htext]
        exact .refused ⟨longest, kept⟩ horder haccepted hrefusal
    · contradiction

/-! ## Creating and consuming -/

/-- A scanner for a text that has scanned nothing yet. -/
def initial (table : RuleTable) (source : Source) : Scanner where
  table := table
  source := source
  place := .start source
  previousEnd := 0
  entered := []
  current := none
  recorded := none
  told := []

/-- A scanner is created by an advance. -/
theorem create_eq (table : RuleTable) (source : Source) :
    create table source = (initial table source).advance := rfl

@[simp] theorem rules_initial (table : RuleTable) (source : Source) :
    (initial table source).rules = table.rulesInMode defaultMode := rfl

@[simp] theorem spot_initial (table : RuleTable) (source : Source) :
    (initial table source).spot = (0, source.chars) := rfl

/-- The scanner once its current token set counts as consumed. -/
def behindCurrent (scanner : Scanner) : Scanner :=
  { scanner with
    previousEnd := (scanner.current.map (·.first.span.stop)).getD scanner.previousEnd }

/-- Consuming a token set is an advance from behind it. -/
theorem next_eq (scanner : Scanner) : scanner.next = scanner.behindCurrent.advance := by
  obtain ⟨table, source, place, previousEnd, entered, current, recorded, told⟩ := scanner
  cases current <;> rfl

/-- Consuming a token set cuts off a gap, and the next token set unless the text ends. -/
theorem next_munch {scanner after : Scanner} (hrules : Anchored scanner.rules)
    (h : scanner.next = .ok () after) :
    Munch scanner.rules scanner.spot after.current.toList after.spot ∧
      after.table = scanner.table ∧ after.source = scanner.source ∧
      after.entered = scanner.entered ∧ (after.current = none → after.place.rest = []) := by
  rw [next_eq] at h
  have hanchored : Anchored scanner.behindCurrent.rules := hrules
  have hmunch := advance_munch hanchored h
  exact hmunch

/-- Consuming a token set fails as an advance from behind it does. -/
theorem next_fails {scanner after : Scanner} {error : Error} (hrules : Anchored scanner.rules)
    (h : scanner.next = .failed error after) :
    Munch scanner.rules scanner.spot [] after.spot ∧
      Fails scanner.rules scanner.source after.spot error := by
  rw [next_eq] at h
  have hanchored : Anchored scanner.behindCurrent.rules := hrules
  have hfails := advance_fails hanchored h
  exact hfails

end Scanner

end GrammarLang.Scan

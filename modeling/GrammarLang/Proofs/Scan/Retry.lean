import GrammarLang.Proofs.Scan.LookAhead

/-! # Advancing again after a failure

An advance that fails has passed over ignored text already when it finds what makes it fail, and the
scanner stays behind that text. This takes nothing away: a scan from where a scan ended finds the
same, there (**`scan_scan`**), so the scanner fails again in the same way, and sees ahead what it
saw before.

* **`Scanner.Unmoved`** — what a failed advance leaves as it was, and the text it passes over.
* **`Scanner.result_stepsAhead_again`** — what is seen from behind the ignored text is what is seen
  from before it.
* **`failed_next_again`** — a failed advance loses nothing and fails again. -/

namespace GrammarLang.Scan

open GrammarLang.Text

/-- A scan from the place where a scan made its finding makes the same finding, and there. -/
theorem scan_scan {source : Source} (rules : List Rule) (here : Cursor source) :
    scan rules (scan rules here).2 = scan rules here := by
  fun_induction scan rules here with
  | case5 _ _ _ _ _ _ _ _ _ ih => exact ih
  | _ => grind [scan]

namespace Scanner

/-- A scanner after a failed advance is where it was, but for ignored text that it has passed over;
the current token set counts as consumed. -/
structure Unmoved (scanner after : Scanner) : Prop where
  /-- The rules are the same. -/
  table : after.table = scanner.table
  /-- The text is the same. -/
  source : after.source = scanner.source
  /-- The current token set is the same. -/
  current : after.current = scanner.current
  /-- So are the modes. -/
  entered : after.entered = scanner.entered
  /-- No token set is added to those kept. -/
  recorded : after.recorded = scanner.recorded
  /-- Nothing is told. -/
  told : after.told = scanner.told
  /-- The last consumed token is the current one, if there is one. -/
  previousEnd : after.previousEnd =
    (scanner.current.map (·.first.span.stop)).getD scanner.previousEnd
  /-- The scanner moves over longest matches of ignoring rules alone. -/
  passed : ∃ gap, Passed scanner.rules after.place.rest gap ∧
    scanner.place.rest = gap ++ after.place.rest ∧
    after.offset = scanner.offset + byteSize gap

/-- A failed advance moves the scanner to the place of what it finds, and does nothing else. -/
theorem after_advance_of_failed {scanner after : Scanner} {error : Error}
    (h : scanner.advance = .failed error after) :
    after = { scanner with place := scanner.finding.2 } := by
  rw [advance] at h
  split at h
  · contradiction
  all_goals rename_i hfound
  · cases h; rw [hfound]
  · cases h; rw [hfound]
  · cases h; rw [hfound]
  · split at h
    · cases h; rw [hfound]
    · contradiction

/-- Where an advance fails, one from another place fails in the same way if the same is found from
there. What is kept and told has no say in it. -/
theorem advance_failed_of_finding {scanner after : Scanner} {place : Cursor scanner.source}
    {error : Error} (hplace : scan scanner.rules place = scanner.finding)
    (h : scanner.advance = .failed error after) (recorded : Option (List TokenSet))
    (told : List Entry) :
    { scanner with place, recorded, told }.advance =
      .failed error { after with recorded, told } := by
  have hfinding : Scanner.finding { scanner with place, recorded, told } = scanner.finding := hplace
  rw [advance] at h ⊢
  rw [hfinding]
  generalize scanner.finding = finding at h ⊢
  obtain ⟨found, there⟩ := finding
  cases found with
  | atEnd => contradiction
  | unknown c => cases h; rfl
  | misplaced rule => cases h; rfl
  | mixed rules count => cases h; rfl
  | lexeme first others count =>
    simp only at h ⊢
    split at h
    · cases h; rfl
    · contradiction

/-- An advance that failed fails again from where the scanner is then, and moves it no further. -/
theorem advance_again {scanner after : Scanner} {error : Error}
    (h : scanner.advance = .failed error after) (recorded : Option (List TokenSet))
    (told : List Entry) :
    { after with recorded, told }.advance = .failed error { after with recorded, told } := by
  have hagain := advance_failed_of_finding (scan_scan scanner.rules scanner.place) h recorded told
  have hafter := after_advance_of_failed h
  subst hafter
  exact hagain

/-- A failed advance leaves a scanner unmoved. -/
theorem unmoved_next {scanner after : Scanner} {error : Error}
    (h : scanner.next = .failed error after) : scanner.Unmoved after := by
  rw [next_eq] at h
  obtain rfl := after_advance_of_failed h
  obtain ⟨gap, hpassed, hsplit⟩ := scan_passed scanner.rules scanner.place
  exact {
    table := rfl
    source := rfl
    current := rfl
    entered := rfl
    recorded := rfl
    told := rfl
    previousEnd := rfl
    passed := ⟨gap, hpassed, hsplit, offset_of_rest_eq hsplit⟩ }

/-- Consuming the current token set fails again where it failed. -/
theorem next_again {scanner after : Scanner} {error : Error}
    (h : scanner.next = .failed error after) (recorded : Option (List TokenSet))
    (told : List Entry) :
    { after with recorded, told }.next = .failed error { after with recorded, told } := by
  have hbehind : Scanner.behindCurrent { after with recorded, told } =
      { after with recorded, told } := by
    have hunmoved := unmoved_next h
    simp only [behindCurrent, hunmoved.current, hunmoved.previousEnd]
    cases scanner.current <;> rfl
  rw [next_eq] at h ⊢
  rw [hbehind]
  exact advance_again h recorded told

/-! ## Looking ahead -/

/-- A step ahead from another place comes to the same if the same is found from there. -/
theorem stepAhead_of_finding (scanner : Scanner) {place : Cursor scanner.source}
    (hplace : scan scanner.rules place = scanner.finding) (previousEnd : Nat) :
    { scanner with place, previousEnd }.stepAhead =
      match scanner.stepAhead with
      | .ok seen there => .ok seen { there with previousEnd }
      | .failed error there => .failed error { there with previousEnd } := by
  have hfinding : Scanner.finding { scanner with place, previousEnd } = scanner.finding := hplace
  rw [stepAhead, stepAhead, hfinding]
  generalize scanner.finding = finding
  obtain ⟨found, there⟩ := finding
  cases found <;> rfl

/-- So do several steps. -/
theorem result_stepsAhead_of_finding (scanner : Scanner) {place : Cursor scanner.source}
    (hplace : scan scanner.rules place = scanner.finding) (previousEnd : Nat) (last : Sighting)
    (count : Nat) :
    ({ scanner with place, previousEnd }.stepsAhead last count).result =
      (scanner.stepsAhead last count).result := by
  induction count generalizing scanner last with
  | zero => rfl
  | succ count ih =>
    cases last with
    | atEnd => rfl
    | unknown => rfl
    | tokens set =>
      rw [stepsAhead, stepsAhead, stepAhead_of_finding scanner hplace previousEnd]
      cases scanner.stepAhead with
      | failed error there => rfl
      | ok seen there =>
        -- The second steps start from one place, so that no two places are left to compare.
        simp only [result_map]
        rw [ih there rfl]

/-- What is seen ahead from a scanner that failed to advance is what was seen before. -/
theorem result_lookAhead_again {scanner after : Scanner} {error : Error}
    (h : scanner.next = .failed error after) (count : Nat) :
    (after.lookAhead count).result = (scanner.lookAhead count).result := by
  rw [next_eq] at h
  obtain rfl := after_advance_of_failed h
  rw [result_lookAhead, result_lookAhead]
  exact result_stepsAhead_of_finding scanner (scan_scan scanner.rules scanner.place) _ _ count

end Scanner

/-- **A failed advance loses nothing and fails again.** The scanner keeps its current token set, its
modes and the token sets kept, and moves over text alone that ignoring rules match. Advancing again
fails with the same error and changes nothing, also where token sets have been kept or lines told in
between. Whatever is seen ahead is what was seen before the failure. -/
theorem failed_next_again {scanner after : Scanner} {error : Error}
    (h : scanner.next = .failed error after) :
    scanner.Unmoved after ∧ after.next = .failed error after ∧
    (∀ recorded told, { after with recorded, told }.next =
      .failed error { after with recorded, told }) ∧
    (∀ count, (after.peek count).result = (scanner.peek count).result) ∧
    after.hasNext.result = scanner.hasNext.result ∧
    (∀ rules, (after.matchesSequence rules).result = (scanner.matchesSequence rules).result) := by
  have hunmoved := Scanner.unmoved_next h
  have hahead := Scanner.result_lookAhead_again h
  have hpeek (count : Nat) : (after.peek count).result = (scanner.peek count).result := by
    rw [Scanner.peek, Scanner.peek, Scanner.result_map, Scanner.result_map, hahead,
      Scanner.sighting, Scanner.sighting, hunmoved.current]
  refine ⟨hunmoved, Scanner.next_again h _ _, Scanner.next_again h, hpeek, ?_, fun rules => ?_⟩
  · rw [Scanner.hasNext, Scanner.hasNext, Scanner.atEnd, Scanner.atEnd, hunmoved.current]
    split
    · rfl
    · rw [Scanner.result_map, Scanner.result_map, hpeek]
  · cases rules with
    | nil => rfl
    | cons rule others =>
      have hmatching : after.matching? rule = scanner.matching? rule := by
        rw [Scanner.matching?, Scanner.matching?, hunmoved.current]
      rw [Scanner.matchesSequence, Scanner.matchesSequence, hmatching]
      cases scanner.matching? rule with
      | none => rfl
      | some token =>
        simp only
        split
        · rfl
        · rw [Scanner.result_map, Scanner.result_map, hahead]

/-- A decoder refuses the number behind a blank: the blank is passed over once, and the refusal
stands. -/
theorem failed_next_again_refused : ∃ table scanner after,
    RuleTable.compile "words" true [{ name := "word", matcher := .regex "[a-z]+" },
      { name := "number", matcher := .regex "[0-9]+",
        decoder := some fun _ => .error "no number" },
      { name := "blank", matcher := .regex " +", ignored := true }] = .ok table ∧
    Reachable table (.ofString "one 2") scanner ∧
    scanner.next = .failed (.decode "number" "2" "no number" ⟨1, 5⟩) after ∧
    scanner.offset = 3 ∧ after.offset = 4 ∧
    after.next = .failed (.decode "number" "2" "no number" ⟨1, 5⟩) after ∧
    after.hasNext.result = scanner.hasNext.result := by
  have hrun : (RuleTable.compile "words" true [{ name := "word", matcher := .regex "[a-z]+" },
      { name := "number", matcher := .regex "[0-9]+",
        decoder := some fun _ => .error "no number" },
      { name := "blank", matcher := .regex " +", ignored := true }]).toOption.any (fun table =>
        let created := Scanner.create table (.ofString "one 2")
        created.result.toOption.isSome &&
          created.after.next.result = .error (.decode "number" "2" "no number" ⟨1, 5⟩) &&
          created.after.offset = 3 && created.after.next.after.offset = 4) = true := by
    decide +kernel
  obtain ⟨table, htable, hscan⟩ := (Option.any_eq_true _ _).1 hrun
  simp only [Bool.and_eq_true, decide_eq_true_eq] at hscan
  obtain ⟨⟨⟨hok, herror⟩, hbefore⟩, hoffset⟩ := hscan
  cases hcreate : Scanner.create table (.ofString "one 2") with
  | failed error last =>
    rw [hcreate] at hok
    contradiction
  | ok created scanner =>
    rw [hcreate] at herror hbefore hoffset
    simp only [Outcome.after] at herror hbefore hoffset
    cases hnext : scanner.next with
    | ok value after =>
      rw [hnext] at herror
      contradiction
    | failed error after =>
      rw [hnext] at herror hoffset
      obtain rfl := Except.error.inj herror
      obtain ⟨-, hagain, -, -, hmore, -⟩ := failed_next_again hnext
      exact ⟨table, scanner, after, ok_of_toOption htable, .create hcreate, hnext, hbefore, hoffset,
        hagain, hmore⟩

end GrammarLang.Scan

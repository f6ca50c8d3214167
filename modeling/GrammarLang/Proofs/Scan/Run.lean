import GrammarLang.Proofs.Scan.Advance

/-! # What becomes of a scanner

A scanner is created for a text and then worked on, an **`Operation`** after the other, some of
which fail. **`Reachable`** holds of every scanner that comes of this, and **`Reachable.settled`**
says what all of them share: a scanner without a token set has read the whole text. -/

namespace GrammarLang.Scan

open GrammarLang.Text

/-- An operation that a scanner offers. -/
inductive Operation
  /-- Consumes the current token set. -/
  | next
  /-- Looks some places ahead. -/
  | peek (count : Nat)
  /-- Asks for another token set behind the current one. -/
  | hasNext
  /-- Asks for token sets with some rules in a row. -/
  | matchesSequence (rules : List String)
  /-- Consumes a token of one of some rules if there is one. -/
  | tryConsumeAny (rules : List String)
  /-- Consumes a token of one of some rules. -/
  | consumeAny (rules : List String)
  /-- Enters a mode. -/
  | pushMode (mode : String)
  /-- Leaves a mode. -/
  | popMode
  /-- Starts to keep token sets. -/
  | record
  /-- Hands over the token sets kept. -/
  | takeRecorded
  /-- Consumes several token sets. -/
  | pull (limit : Nat)

namespace Operation

/-- The scanner after an operation, whether this fails or not. -/
def run (scanner : Scanner) : Operation → Scanner
  | .next => scanner.next.after
  | .peek count => (scanner.peek count).after
  | .hasNext => scanner.hasNext.after
  | .matchesSequence rules => (scanner.matchesSequence rules).after
  | .tryConsumeAny rules => (scanner.tryConsumeAny rules).after
  | .consumeAny rules => (scanner.consumeAny rules).after
  | .pushMode mode => scanner.pushMode mode
  | .popMode => scanner.popMode.2
  | .record => scanner.record
  | .takeRecorded => scanner.takeRecorded.2
  | .pull limit => (scanner.pull limit).2

end Operation

/-- A scanner that comes of operations on one created for a text. -/
inductive Reachable (table : RuleTable) (source : Source) : Scanner → Prop
  /-- The scanner was just created. -/
  | create {scanner : Scanner} (created : Scanner.create table source = .ok () scanner) :
      Reachable table source scanner
  /-- An operation came last. -/
  | step {scanner : Scanner} (before : Reachable table source scanner) (operation : Operation) :
      Reachable table source (operation.run scanner)

namespace Scanner

/-- What an evaluation finds of the scanner created for a text holds of a scanner that there is. -/
theorem exists_scanner_of_check (name : String) (unicode : Bool) (specs : List RuleSpec)
    (source : Source) (check : RuleTable → Scanner → Bool)
    (h : (RuleTable.compile name unicode specs).toOption.any (fun table =>
      (create table source).result.toOption.isSome &&
        check table (create table source).after) = true) :
    ∃ table scanner, RuleTable.compile name unicode specs = .ok table ∧
      create table source = .ok () scanner ∧ check table scanner = true := by
  obtain ⟨table, htable, hboth⟩ := (Option.any_eq_true _ _).1 h
  obtain ⟨hok, hcheck⟩ := Bool.and_eq_true_iff.1 hboth
  cases hcreate : create table source with
  | failed error last =>
    rw [hcreate] at hok
    contradiction
  | ok _ scanner =>
    rw [hcreate] at hcheck
    exact ⟨table, scanner, ok_of_toOption htable, hcreate, hcheck⟩

/-- A scanner that stands at no token set has no text before it. -/
def Settled (scanner : Scanner) : Prop := scanner.current = none → scanner.place.rest = []

theorem settled_of_current_isSome {scanner : Scanner} (h : scanner.current.isSome = true) :
    scanner.Settled := by
  intro hnone
  simp [hnone] at h

/-- Where no text is left, the end is found. -/
theorem finding_of_rest_eq_nil {scanner : Scanner} (h : scanner.place.rest = []) :
    scanner.finding = (.atEnd, scanner.place) := by
  rw [finding, scan]
  split
  · rfl
  · simp_all

/-- An advance settles a scanner, and leaves it settled where it fails. -/
theorem settled_advance {scanner : Scanner} (h : scanner.Settled) : scanner.advance.after.Settled := by
  by_cases hcurrent : scanner.current.isSome = true
  · -- Only the end of the text takes the current token set away.
    simp only [advance]
    split
    · rename_i place hfound
      exact fun _ => rest_of_scan_eq_atEnd hfound
    · exact settled_of_current_isSome hcurrent
    · exact settled_of_current_isSome hcurrent
    · exact settled_of_current_isSome hcurrent
    · split
      · exact settled_of_current_isSome hcurrent
      · exact settled_of_current_isSome rfl
  · have hrest := h (by simpa using hcurrent)
    rw [advance, finding_of_rest_eq_nil hrest]
    exact fun _ => hrest

theorem settled_next {scanner : Scanner} (h : scanner.Settled) : scanner.next.after.Settled := by
  rw [next_eq]
  exact settled_advance (show scanner.behindCurrent.Settled from h)

/-- A scanner just created is settled. -/
theorem settled_create {table : RuleTable} {source : Source} {scanner : Scanner}
    (h : create table source = .ok () scanner) : scanner.Settled := by
  rw [create_eq, advance] at h
  split at h
  · rename_i place hfound
    cases h
    exact fun _ => rest_of_scan_eq_atEnd hfound
  · contradiction
  · contradiction
  · contradiction
  · split at h
    · contradiction
    · cases h
      exact settled_of_current_isSome rfl

/-! ## Looking ahead -/

/-- Looking ahead stops at a token set where it fails. -/
theorem current_of_stepsAhead_eq_failed {scanner there : Scanner} {last : Sighting} {count : Nat}
    {error : Error} (h : scanner.stepsAhead last count = .failed error there)
    (hcurrent : ∀ set, last = .tokens set → scanner.current.isSome = true) :
    there.current.isSome = true := by
  induction count generalizing scanner last with
  | zero => simp [stepsAhead] at h
  | succ count ih =>
    cases last with
    | atEnd => simp [stepsAhead] at h
    | unknown => simp [stepsAhead] at h
    | tokens set =>
      have hsome := hcurrent set rfl
      simp only [stepsAhead] at h
      split at h
      · rename_i error' there' hstep
        cases h
        simp only [stepAhead] at hstep
        split at hstep <;> cases hstep <;> exact hsome
      · rename_i seen there' hstep
        cases hsteps : there'.stepsAhead seen count with
        | ok sightings after => simp [hsteps, Outcome.map] at h
        | failed error' after =>
          simp only [hsteps, Outcome.map, Outcome.failed.injEq] at h
          obtain ⟨rfl, rfl⟩ := h
          refine ih hsteps fun set hset => ?_
          subst hset
          simp only [stepAhead] at hstep
          split at hstep <;> cases hstep
          rfl

/-- A scanner that has looked ahead stands where it stood before; a misplaced match alone leaves it
elsewhere, at a token set. -/
theorem after_lookAhead (scanner : Scanner) (count : Nat) :
    (scanner.lookAhead count).after = scanner ∨
      (∃ rule, (scanner.lookAhead count).result = .error (.misplacedMatch rule)) ∧
        (scanner.lookAhead count).after.current.isSome = true := by
  simp only [lookAhead]
  split
  · exact .inl rfl
  · rename_i rule there hsteps
    refine .inr ⟨⟨rule, rfl⟩, current_of_stepsAhead_eq_failed hsteps fun set hset => ?_⟩
    rw [sighting] at hset
    split at hset <;> simp_all
  · exact .inl rfl

@[simp] theorem after_map {α β : Type} (change : α → β) (outcome : Outcome α) :
    (outcome.map change).after = outcome.after := by
  cases outcome <;> rfl

theorem settled_lookAhead {scanner : Scanner} (h : scanner.Settled) (count : Nat) :
    (scanner.lookAhead count).after.Settled := by
  rcases after_lookAhead scanner count with hsame | ⟨-, hsome⟩
  · rwa [hsame]
  · exact settled_of_current_isSome hsome

/-! ## Operations in a row -/

theorem settled_tryConsumeAny {scanner : Scanner} (h : scanner.Settled) (rules : List String) :
    (scanner.tryConsumeAny rules).after.Settled := by
  have hnext := settled_next h
  simp only [tryConsumeAny]
  split
  · exact h
  · split <;> simp_all [Outcome.after]
  · exact h

theorem settled_pull {scanner : Scanner} (h : scanner.Settled) (limit : Nat) :
    (scanner.pull limit).2.Settled := by
  induction limit generalizing scanner with
  | zero => exact h
  | succ limit ih =>
    have hnext := settled_next h
    simp only [pull]
    split
    · exact h
    · split <;> simp_all [Outcome.after]

/-- No operation unsettles a scanner. -/
theorem settled_run {scanner : Scanner} (h : scanner.Settled) (operation : Operation) :
    (operation.run scanner).Settled := by
  cases operation with
  | next => exact settled_next h
  | peek count =>
    simp only [Operation.run, peek, after_map]
    exact settled_lookAhead h count
  | hasNext =>
    simp only [Operation.run, hasNext]
    split
    · exact h
    · simp only [peek, after_map]
      exact settled_lookAhead h 1
  | matchesSequence rules =>
    simp only [Operation.run, matchesSequence]
    split
    · exact h
    · split
      · exact h
      · split
        · exact h
        · rw [after_map]
          exact settled_lookAhead h _
  | tryConsumeAny rules => exact settled_tryConsumeAny h rules
  | consumeAny rules =>
    have htry := settled_tryConsumeAny h rules
    simp only [Operation.run, consumeAny]
    split <;> simp_all [Outcome.after]
  | pushMode mode =>
    simp only [Operation.run, pushMode]
    split <;> exact h
  | popMode =>
    simp only [Operation.run, popMode]
    split <;> exact h
  | record => exact h
  | takeRecorded => exact h
  | pull limit => exact settled_pull h limit

end Scanner

/-- Every scanner that can be reached is settled. -/
theorem Reachable.settled {table : RuleTable} {source : Source} {scanner : Scanner}
    (h : Reachable table source scanner) : scanner.Settled := by
  induction h with
  | create created => exact Scanner.settled_create created
  | step _ operation ih => exact Scanner.settled_run ih operation

end GrammarLang.Scan

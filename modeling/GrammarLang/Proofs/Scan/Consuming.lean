import GrammarLang.Proofs.Scan.Invariant
import GrammarLang.Proofs.Scan.Retry

/-! # The scans that operations make

Operations differ in when they consume the current token set, and each time they do it a scan for
the next one follows. **`Operation.scans`** lists the scanners that an operation advances in this way,
one after another; all else an operation does is to look ahead, to change modes, or to start and end
keeping token sets. So what scans carry on is carried on by operations (**`Carried.run`**), together
with what is counted along the way.

* **`Scanner.consumed`**, **`Scanner.produced`** — the token set that a scan replaces, and the one it
  comes to; none of either where the scan fails.
* **`Scanner.Situated`** — how the current token set lies in the text, whatever values its tokens
  have. -/

namespace GrammarLang.Scan

open GrammarLang.Text

/-! ## Scans one after another -/

namespace Operation

/-- The scanners that are advanced when token sets are consumed one after another. -/
def pullScans (scanner : Scanner) : (limit : Nat) → List Scanner
  | 0 => []
  | limit + 1 =>
    match scanner.current, scanner.next with
    | none, _ => []
    | some _, .ok _ after => scanner :: pullScans after limit
    | some _, .failed _ _ => [scanner]

/-- The scanners that an operation advances, one after another. -/
def scans (scanner : Scanner) : Operation → List Scanner
  | .next => [scanner]
  | .tryConsumeAny rules | .consumeAny rules =>
    match scanner.alternatives rules with
    | [_] => [scanner]
    | _ => []
  | .pull limit => pullScans scanner limit
  | _ => []

/-- The last scan of several is the one whose failure counts. -/
theorem pullFails?_eq (scanner : Scanner) (limit : Nat) :
    pullFails? scanner limit = (pullScans scanner limit).getLast?.map (·.next.isFailed) := by
  induction limit generalizing scanner with
  | zero => rfl
  | succ limit ih =>
    rw [pullFails?, pullScans]
    cases scanner.current with
    | none => rfl
    | some set =>
      cases hnext : scanner.next with
      | failed error after => simp [hnext, Outcome.isFailed]
      | ok _ after =>
        simp only [ih after, List.getLast?_cons]
        cases hlast : (pullScans after limit).getLast? with
        | none => simp [hnext, Outcome.isFailed]
        | some last => simp

theorem scanFails?_eq (scanner : Scanner) (operation : Operation) :
    operation.scanFails? scanner =
      (operation.scans scanner).getLast?.map (·.next.isFailed) := by
  cases operation with
  | pull limit => exact pullFails?_eq scanner limit
  | tryConsumeAny rules | consumeAny rules =>
    rw [scanFails?, scans]
    rcases scanner.alternatives rules with _ | ⟨first, _ | ⟨second, others⟩⟩ <;> rfl
  | _ => rfl

end Operation

/-- Something is known of a scanner, together with what was counted on the way to it, and scans
carry it on: `step` counts one scan more. -/
structure Carried {Count : Type} (Known : Count → Scanner → Prop)
    (step : Count → Scanner → Count) : Prop where
  /-- The rules are anchored, so that looking ahead moves nothing. -/
  anchored : ∀ count scanner, Known count scanner → Anchored scanner.rules
  /-- A scan carries it on, whether it succeeds or fails. -/
  next : ∀ count scanner, Known count scanner → Known (step count scanner) scanner.next.after
  /-- The modes do not matter. -/
  modes : ∀ count scanner, Known count scanner → ∀ entered told,
    Known count { scanner with entered, told }

namespace Carried

variable {Count : Type} {Known : Count → Scanner → Prop} {step : Count → Scanner → Count}
  {scanner : Scanner}

/-- What scans carry on is carried on where token sets are consumed one after another. -/
theorem pull (hcarried : Carried Known step) (count : Count) (h : Known count scanner)
    (limit : Nat) :
    Known ((Operation.pullScans scanner limit).foldl step count) (scanner.pull limit).2 := by
  induction limit generalizing count scanner with
  | zero => exact h
  | succ limit ih =>
    -- The first scan carries it to the scanner behind; from there on it is the induction's.
    have hafter := hcarried.next count scanner h
    rw [Operation.pullScans, Scanner.pull]
    cases scanner.current with
    | none => exact h
    | some set =>
      cases hscan : scanner.next with
      | ok _ after =>
        rw [hscan] at hafter
        exact ih _ hafter
      | failed error after =>
        -- Whatever is handed out, the scanner is the one behind the failure.
        rw [hscan] at hafter
        cases error <;> exact hafter

theorem tryConsumeAny (hcarried : Carried Known step) (count : Count) (h : Known count scanner)
    (rules : List String) :
    Known (((Operation.tryConsumeAny rules).scans scanner).foldl step count)
      (scanner.tryConsumeAny rules).after := by
  have hafter := hcarried.next count scanner h
  rw [Operation.scans, Scanner.tryConsumeAny]
  cases scanner.alternatives rules with
  | nil => exact h
  | cons first others =>
    cases others with
    | cons second others => exact h
    | nil =>
      cases hscan : scanner.next with
      | ok _ after => rwa [hscan] at hafter
      | failed error after => rwa [hscan] at hafter

/-- **What scans carry on is carried on by every operation**, but for what starting and ending to
keep token sets do. -/
theorem run (hcarried : Carried Known step) (count : Count) (h : Known count scanner)
    (operation : Operation) (hrecord : operation = .record → Known count scanner.record)
    (htake : operation = .takeRecorded → Known count scanner.takeRecorded.2) :
    Known ((operation.scans scanner).foldl step count) (operation.run scanner) := by
  have hrules := hcarried.anchored count scanner h
  cases operation with
  | next => exact hcarried.next count scanner h
  -- Looking ahead leaves the scanner as it is, and makes no scan that counts.
  | peek places => exact (Scanner.run_peek hrules places).symm ▸ h
  | hasNext => exact (Scanner.run_hasNext hrules).symm ▸ h
  | matchesSequence rules => exact (Scanner.run_matchesSequence hrules rules).symm ▸ h
  | tryConsumeAny rules => exact hcarried.tryConsumeAny count h rules
  | consumeAny rules =>
    rw [Operation.run, Scanner.after_consumeAny]
    exact hcarried.tryConsumeAny count h rules
  | pushMode mode =>
    rw [Operation.run, Scanner.pushMode]
    split <;> exact hcarried.modes count scanner h _ _
  | popMode =>
    rw [Operation.run, Scanner.popMode]
    split <;> exact hcarried.modes count scanner h _ _
  | record => exact hrecord rfl
  | takeRecorded => exact htake rfl
  | pull limit => exact hcarried.pull count h limit

end Carried

/-! ## Where the current token set lies -/

/-- The tokens of the set share one stretch of the text, which is not empty and lies between
characters. -/
structure TokenSet.LiesIn (set : TokenSet) (source : Source) : Prop where
  /-- The stretch lies between characters. -/
  bounds : IsBoundary source set.first.span.start ∧ IsBoundary source set.first.span.stop
  /-- There is at least one character. -/
  start_lt_stop : set.first.span.start < set.first.span.stop
  /-- All tokens share the stretch. -/
  shared : ∀ token ∈ set.toList, token.span = set.first.span

/-- The first token set of a text lies in it, up to the place behind it. -/
theorem First.liesIn {source : Source} {rules : List Rule} {before text : List Char}
    {set : TokenSet} {stop : Nat × List Char} (hchars : source.chars = before ++ text)
    (h : First rules (byteSize before, text) (some set) stop) :
    set.LiesIn source ∧ byteSize before ≤ set.first.span.start ∧
      set.first.span.stop = stop.1 := by
  generalize hhere : (byteSize before, text) = here at h
  cases h with
  | @lexeme offset gap front rest _ passed lexeme read =>
    obtain ⟨rfl, rfl⟩ := Prod.mk.inj hhere
    have hspan : ∀ token ∈ set.toList, token.span =
        ⟨byteSize before + byteSize gap, byteSize before + byteSize gap + byteSize front⟩ := by
      intro token hmem
      obtain ⟨rule, -, value, -, rfl⟩ := Reads.of_mem read hmem
      rfl
    have hfirst := hspan set.first List.mem_cons_self
    have hpos := byteSize_pos lexeme.front_ne_nil
    rw [hfirst]
    refine ⟨⟨?_, ?_, fun token hmem => (hspan token hmem).trans hfirst.symm⟩,
      Nat.le_add_right _ _, rfl⟩
    · rw [hfirst]
      refine ⟨⟨before ++ gap, front ++ rest, ?_, by simp⟩,
        ⟨before ++ gap ++ front, rest, ?_, by simp [Nat.add_assoc]⟩⟩
      · rw [hchars, List.append_assoc]
      · rw [hchars, List.append_assoc, List.append_assoc]
    · rw [hfirst]
      exact Nat.lt_add_of_pos_right hpos

namespace Scanner

variable {table : RuleTable} {source : Source} {scanner after : Scanner}

/-- How a scanner and its token set lie in the text all the time. -/
structure Situated (table : RuleTable) (source : Source) (scanner : Scanner) : Prop where
  /-- The rules stay. -/
  table_eq : scanner.table = table
  /-- The text stays. -/
  source_eq : scanner.source = source
  /-- There is a token set but at the end of the text. -/
  settled : scanner.Settled
  /-- Where there is a token set, it lies in the text, at or before the place. -/
  current_liesIn : ∀ set, scanner.current = some set →
    set.LiesIn source ∧ set.first.span.stop ≤ scanner.offset

theorem Situated.anchored (h : scanner.Situated table source) (hanchored : Anchored table.rules) :
    Anchored scanner.rules :=
  anchored_rules hanchored h.table_eq

/-- The situation is about the place and the token set only. -/
theorem Situated.rearranged (h : scanner.Situated table source) (previousEnd : Nat)
    (entered : List String) (recorded : Option (List TokenSet)) (told : List Entry) :
    { scanner with previousEnd, entered, recorded, told }.Situated table source :=
  ⟨h.table_eq, h.source_eq, h.settled, h.current_liesIn⟩

/-- A scan that succeeds comes to a token set at or behind the place, and stands right behind it; or
to the end of the text. -/
theorem situated_of_advance (hanchored : Anchored table.rules) (htable : scanner.table = table)
    (hsource : scanner.source = source) (h : scanner.advance = .ok () after) :
    after.Situated table source ∧ scanner.offset ≤ after.offset ∧
      ∀ set, after.current = some set →
        scanner.offset ≤ set.first.span.start ∧ set.first.span.stop = after.offset := by
  have hrules := anchored_rules hanchored htable
  subst htable hsource
  obtain ⟨hfirst, htable, hsource, -, -, -⟩ := advance_first hrules h
  obtain ⟨before, hsplit⟩ := scanner.place.splitAt?_offset
  obtain ⟨hchars, hoffset⟩ := eq_append_of_splitAt? hsplit
  have hset : ∀ set, after.current = some set → set.LiesIn scanner.source ∧
      scanner.offset ≤ set.first.span.start ∧ set.first.span.stop = after.offset := by
    intro set hset
    rw [spot, hoffset, hset] at hfirst
    rw [offset, hoffset]
    exact hfirst.liesIn hchars
  have hended : after.current = none → after.place.rest = [] := hfirst.rest_eq_nil
  refine ⟨⟨htable, hsource, hended, fun set h => ⟨(hset set h).1,
    Nat.le_of_eq (hset set h).2.2⟩⟩, ?_,
    fun set h => (hset set h).2⟩
  cases hcurrent : after.current with
  | some set =>
    obtain ⟨hlies, hstart, hstop⟩ := hset set hcurrent
    have := hlies.start_lt_stop
    omega
  | none =>
    have hsize := after.place.offset_eq
    rw [hended hcurrent, byteSize_nil, Nat.add_zero] at hsize
    have hle := scanner.place.offset_le_size
    rw [offset, offset, hsize, hsource]
    exact hle

/-- A scanner just created is situated in its text. -/
theorem situated_create (hanchored : Anchored table.rules)
    (h : create table source = .ok () scanner) : scanner.Situated table source :=
  (situated_of_advance hanchored rfl rfl h).1

/-- Consuming a token set, where the scan succeeds. -/
theorem Situated.next_ok (h : scanner.Situated table source) (hanchored : Anchored table.rules)
    (hnext : scanner.next = .ok () after) :
    after.Situated table source ∧ scanner.offset ≤ after.offset ∧
      (∀ set, after.current = some set →
        scanner.offset ≤ set.first.span.start ∧ set.first.span.stop = after.offset) ∧
      after.previousEnd = (scanner.current.map (·.first.span.stop)).getD scanner.previousEnd ∧
      after.recorded = scanner.recorded.map (after.current.toList ++ ·) := by
  rw [next_eq] at hnext
  have hbehind : scanner.behindCurrent.Situated table source := h.rearranged _ _ _ _
  obtain ⟨-, -, -, -, hprevious, hrecorded⟩ := advance_first (hbehind.anchored hanchored) hnext
  obtain ⟨hafter, hle, hset⟩ :=
    situated_of_advance hanchored hbehind.table_eq hbehind.source_eq hnext
  exact ⟨hafter, hle, hset, hprevious, hrecorded⟩

/-- Consuming a token set, where the scan fails. There is a token set then. -/
theorem Situated.next_failed {error : Error} (h : scanner.Situated table source)
    (hnext : scanner.next = .failed error after) :
    after.Situated table source ∧ scanner.offset ≤ after.offset ∧
      ∃ set, scanner.current = some set ∧ after.current = some set ∧
        after.previousEnd = set.first.span.stop := by
  have hunmoved := unmoved_next hnext
  obtain ⟨gap, -, -, hoffset⟩ := hunmoved.passed
  have hle : scanner.offset ≤ after.offset := hoffset ▸ Nat.le_add_right _ _
  cases hcurrent : scanner.current with
  | none =>
    -- At the end of the text there is nothing that a scan could fail at.
    rw [next_of_rest_eq_nil (h.settled hcurrent)] at hnext
    contradiction
  | some set =>
    have hsame : after.current = some set := hunmoved.current.trans hcurrent
    obtain ⟨hlies, hstop⟩ := h.current_liesIn set hcurrent
    refine ⟨⟨hunmoved.table.trans h.table_eq, hunmoved.source.trans h.source_eq,
      settled_of_current_isSome (by rw [hsame]; rfl), fun other hother => ?_⟩, hle, set, rfl, hsame, ?_⟩
    · obtain rfl : set = other := Option.some.inj (hsame.symm.trans hother)
      exact ⟨hlies, Nat.le_trans hstop hle⟩
    · rw [hunmoved.previousEnd, hcurrent]
      rfl

theorem Situated.next (h : scanner.Situated table source) (hanchored : Anchored table.rules) :
    scanner.next.after.Situated table source := by
  cases hnext : scanner.next with
  | ok _ after => exact (h.next_ok hanchored hnext).1
  | failed error after => exact (h.next_failed hnext).1

theorem carried_situated (hanchored : Anchored table.rules) :
    Carried (fun (_ : Unit) scanner => scanner.Situated table source) fun count _ => count where
  anchored _ _ h := h.anchored hanchored
  next _ _ h := h.next hanchored
  modes _ _ h _ _ := h.rearranged _ _ _ _

/-- Every operation keeps a scanner situated in its text. -/
theorem situated_run (h : scanner.Situated table source) (hanchored : Anchored table.rules)
    (operation : Operation) : (operation.run scanner).Situated table source :=
  (carried_situated hanchored).run () h operation (fun _ => h.rearranged _ _ _ _) fun _ =>
    h.rearranged _ _ _ _

/-! ## Token sets consumed and produced -/

/-- The token set that a scan for the next one replaces, if the scan succeeds. -/
def consumed (scanner : Scanner) : List TokenSet :=
  match scanner.next with
  | .ok _ _ => scanner.current.toList
  | .failed _ _ => []

/-- The token set that a scan comes to, if it succeeds and does not reach the end of the text. -/
def produced (scanner : Scanner) : List TokenSet :=
  match scanner.next with
  | .ok _ after => after.current.toList
  | .failed _ _ => []

end Scanner

namespace Operation

/-- The token sets that an operation consumes, in order. -/
def consumed (scanner : Scanner) (operation : Operation) : List TokenSet :=
  (operation.scans scanner).flatMap Scanner.consumed

/-- The token sets that an operation comes to, in order. -/
def produced (scanner : Scanner) (operation : Operation) : List TokenSet :=
  (operation.scans scanner).flatMap Scanner.produced

end Operation

/-- Every scanner that can be reached is situated in its text. -/
theorem Reachable.situated {table : RuleTable} {source : Source} {scanner : Scanner}
    (h : Reachable table source scanner) (hanchored : Anchored table.rules) :
    scanner.Situated table source := by
  induction h with
  | create created => exact Scanner.situated_create hanchored created
  | step _ operation ih => exact Scanner.situated_run ih hanchored operation

/-- Operations in a row lead to scanners that can be reached. -/
theorem Reachable.foldl {table : RuleTable} {source : Source} {scanner : Scanner}
    (h : Reachable table source scanner) (operations : List Operation) :
    Reachable table source (operations.foldl Operation.run scanner) := by
  induction operations generalizing scanner with
  | nil => exact h
  | cons operation others ih => exact ih (h.step operation)

end GrammarLang.Scan

import GrammarLang.Proofs.Scan.LookAhead
import GrammarLang.Proofs.Scan.Standing

/-! # What holds of a scanner all the time

A scanner that was created for a text may be worked on in any way, and whether the single steps
succeed or fail, it stays **`Sound`**: it stands between two characters of the text, its token set is
cut from the text right before by rules of one mode, and it has no token set just if the text is at
its end.

* **`Scanner.modes`** — the modes that the scanner is in, the innermost first.
* **`TokenSet.CutFrom`** — what a token set has to do with the text.
* **`Operation.scanFails?`**, **`Operation.runAll`** — whether the last scan of an operation, and of
  several of them, fails.
* **`sound_after_runAll`** — operations in a row keep a scanner sound. -/

namespace GrammarLang.Scan

open GrammarLang.Text

/-- An offset that lies between two characters of a text, or at one of its ends. -/
def IsBoundary (source : Source) (offset : Nat) : Prop :=
  ∃ before behind, source.chars = before ++ behind ∧ offset = byteSize before

theorem IsBoundary.le_size {source : Source} {offset : Nat} (h : IsBoundary source offset) :
    offset ≤ source.size := by
  obtain ⟨before, behind, hchars, rfl⟩ := h
  rw [source.size_eq, hchars, byteSize_append]
  exact Nat.le_add_right _ _

/-- A place in a text lies between two characters. -/
theorem isBoundary_offset {source : Source} (place : Cursor source) :
    IsBoundary source place.offset := by
  obtain ⟨before, hsplit⟩ := place.splitAt?_offset
  obtain ⟨hchars, hoffset⟩ := eq_append_of_splitAt? hsplit
  exact ⟨before, place.rest, hchars, hoffset⟩

/-- The tokens of the set are readings of one stretch of the text, by different rules of one mode in
the order these were declared. None of the rules ignores the text, and each reading has a value. -/
structure TokenSet.CutFrom (set : TokenSet) (table : RuleTable) (source : Source) : Prop where
  /-- The bytes of the set lie between characters, and there is at least one. -/
  bounds : IsBoundary source set.first.span.start ∧ IsBoundary source set.first.span.stop ∧
    set.first.span.start < set.first.span.stop
  /-- All tokens have the same bytes. -/
  shared : ∀ token ∈ set.toList, token.span = set.first.span
  /-- Each token comes of a rule of its own. -/
  ruled : ∃ mode rules, List.Sublist rules (table.rulesInMode mode) ∧
    (∀ rule ∈ rules, rule.ignored = false) ∧ set.rules = rules.map Rule.name
  /-- All tokens have values. -/
  evaluated : ∀ token ∈ set.toList, token.value ≠ .unevaluated

/-- Whether the texts of rules are always turned into values, where they are not refused. -/
def Evaluating (rules : List Rule) : Prop :=
  ∀ rule ∈ rules, ∀ text, rule.evaluate text ≠ .ok .unevaluated

namespace Scanner

/-- The modes that a scanner is in, the innermost first; at the bottom is the mode that all texts
start in. -/
def modes (scanner : Scanner) : List String := scanner.entered ++ [defaultMode]

@[simp] theorem head?_modes (scanner : Scanner) : scanner.modes.head? = some scanner.mode := by
  rw [modes, mode]
  cases scanner.entered <;> rfl

@[simp] theorem getLast?_modes (scanner : Scanner) :
    scanner.modes.getLast? = some defaultMode := by
  rw [modes, List.getLast?_concat]

/-- A mode is entered on top of the others. -/
@[simp] theorem modes_pushMode (scanner : Scanner) (mode : String) :
    (scanner.pushMode mode).modes = mode :: scanner.modes := by
  rw [pushMode]
  split <;> rfl

/-- The mode on top is left, unless it is the bottom one. -/
theorem modes_popMode (scanner : Scanner) :
    scanner.popMode = (none, scanner.popMode.2) ∧ scanner.modes = [defaultMode] ∧
        scanner.popMode.2.modes = [defaultMode] ∨
      ∃ mode, scanner.popMode = (some mode, scanner.popMode.2) ∧
        scanner.modes = mode :: scanner.popMode.2.modes := by
  obtain ⟨table, source, place, previousEnd, entered, current, recorded, told⟩ := scanner
  cases entered with
  | nil => exact .inl ⟨rfl, rfl, rfl⟩
  | cons mode outer => exact .inr ⟨mode, rfl, rfl⟩

/-- What holds of a scanner for a text all the time; `failed` says that a scan has failed since the
token set was produced. -/
structure Sound (table : RuleTable) (source : Source) (failed : Bool) (scanner : Scanner) :
    Prop where
  /-- The rules stay. -/
  table_eq : scanner.table = table
  /-- The text stays. -/
  source_eq : scanner.source = source
  /-- The bottom mode stays. -/
  bottom : scanner.modes.getLast? = some defaultMode
  /-- The place is in the text and between characters. -/
  boundary : IsBoundary source scanner.offset
  /-- Where there is a token set, it is cut from the text. -/
  cut : ∀ set, scanner.current = some set → set.CutFrom table source
  /-- The token set ends right before the place, or further before where a scan has failed. -/
  stop_le : ∀ set, scanner.current = some set → set.first.span.stop ≤ scanner.offset
  /-- Unless a scan has failed, the token set ends at the place. -/
  stop_eq : failed = false → ∀ set, scanner.current = some set →
    set.first.span.stop = scanner.offset
  /-- There is always a token set but at the end of the text. -/
  ended : scanner.current = none → scanner.offset = source.size

variable {table : RuleTable} {source : Source} {failed : Bool} {scanner after : Scanner}

/-- The place is never beyond the end of the text. -/
theorem Sound.offset_le (h : scanner.Sound table source failed) : scanner.offset ≤ source.size :=
  h.boundary.le_size

/-- Text that no rule matches is nothing to stand at. -/
theorem sighting_ne_unknown (scanner : Scanner) : scanner.sighting ≠ .unknown := by
  rw [sighting]
  split <;> simp

/-- The rules of the innermost mode are rules of the table. -/
theorem anchored_rules (hanchored : Anchored table.rules) (htable : scanner.table = table) :
    Anchored scanner.rules := by
  intro rule hmem
  rw [rules, htable] at hmem
  exact hanchored rule (List.mem_filter.1 hmem).1

theorem Sound.anchored (h : scanner.Sound table source failed) (hrules : Anchored table.rules) :
    Anchored scanner.rules :=
  anchored_rules hrules h.table_eq

/-- Soundness is about the place and the token set only. -/
theorem Sound.rearranged (h : scanner.Sound table source failed) (previousEnd : Nat)
    (entered : List String) (recorded : Option (List TokenSet)) (told : List Entry) :
    { scanner with previousEnd, entered, recorded, told }.Sound table source failed :=
  ⟨h.table_eq, h.source_eq, getLast?_modes _, h.boundary, h.cut, h.stop_le, h.stop_eq, h.ended⟩

/-- At the end of a text there is nothing left of it. -/
theorem Sound.rest_eq_nil (h : scanner.Sound table source failed)
    (hcurrent : scanner.current = none) : scanner.place.rest = [] := by
  have hended := h.ended hcurrent
  have hoffset := scanner.place.offset_eq
  rw [← h.source_eq] at hended
  by_contra hne
  have hpos := byteSize_pos hne
  rw [offset] at hended
  omega

end Scanner

variable {table : RuleTable} {source : Source}

/-- Whether an operation has failed. -/
def Outcome.isFailed {α : Type} : Outcome α → Bool
  | .ok _ _ => false
  | .failed _ _ => true

/-! ## Scanning -/

/-- The first token set of a text is cut from it. -/
theorem First.cutFrom {mode : String} {before text : List Char} {set : TokenSet}
    {stop : Nat × List Char} (hvalues : Evaluating table.rules)
    (hchars : source.chars = before ++ text)
    (h : First (table.rulesInMode mode) (byteSize before, text) (some set) stop) :
    set.CutFrom table source ∧ set.first.span.stop = stop.1 := by
  generalize hhere : (byteSize before, text) = here at h
  cases h with
  | @lexeme offset gap front rest _ passed lexeme read =>
    obtain ⟨rfl, rfl⟩ := Prod.mk.inj hhere
    have hspan : ∀ token ∈ set.toList, token.span =
        ⟨byteSize before + byteSize gap, byteSize before + byteSize gap + byteSize front⟩ := by
      intro token hmem
      obtain ⟨rule, -, value, -, rfl⟩ := Reads.of_mem read hmem
      rfl
    have hfirst := hspan set.first List.mem_cons_self
    have hfront : front ≠ [] := lexeme.front_ne_nil
    have hpos := byteSize_pos hfront
    refine ⟨⟨?_, fun token hmem => (hspan token hmem).trans hfirst.symm,
      ⟨mode, _, List.filter_sublist, lexeme.kept, Reads.names_eq read⟩, ?_⟩, by rw [hfirst]⟩
    · rw [hfirst]
      refine ⟨⟨before ++ gap, front ++ rest, ?_, by simp⟩,
        ⟨before ++ gap ++ front, rest, ?_, ?_⟩, Nat.lt_add_of_pos_right hpos⟩
      · rw [hchars, List.append_assoc]
      · rw [hchars, List.append_assoc, List.append_assoc]
      · rw [byteSize_append, byteSize_append]
    · intro token hmem
      obtain ⟨rule, hrule, value, hvalue, rfl⟩ := Reads.of_mem read hmem
      rintro rfl
      exact hvalues rule (List.mem_filter.1 (List.mem_filter.1 hrule).1).1 _ hvalue

namespace Scanner

variable {failed : Bool} {scanner after : Scanner}

/-- An advance that fails changes the place only, and passes over text there. -/
theorem advance_failed {error : Error} (hrules : Anchored scanner.rules)
    (h : scanner.advance = .failed error after) :
    (∃ place, after = { scanner with place }) ∧ scanner.offset ≤ after.offset := by
  obtain ⟨hmunch, -⟩ := advance_fails hrules h
  refine ⟨?_, ?_⟩
  · simp only [advance] at h
    split at h
    · contradiction
    · cases h; exact ⟨_, rfl⟩
    · cases h; exact ⟨_, rfl⟩
    · cases h; exact ⟨_, rfl⟩
    · split at h
      · cases h; exact ⟨_, rfl⟩
      · contradiction
  · generalize hstart : scanner.spot = start at hmunch
    generalize hstop : after.spot = stop at hmunch
    cases hmunch with
    | last passed =>
      have hbefore : scanner.offset = _ := (Prod.mk.inj hstart).1
      have hafter : after.offset = _ := (Prod.mk.inj hstop).1
      rw [hbefore, hafter]
      exact Nat.le_add_right _ _

/-- A scanner that advances over a text comes to stand at a token set cut from it, or at its end. -/
theorem sound_of_advance (hanchored : Anchored table.rules) (hvalues : Evaluating table.rules)
    (htable : scanner.table = table) (hsource : scanner.source = source)
    (h : scanner.advance = .ok () after) : after.Sound table source false := by
  have hrules := anchored_rules hanchored htable
  subst htable hsource
  obtain ⟨hfirst, htable, hsource, -, -, -⟩ := advance_first hrules h
  obtain ⟨before, hsplit⟩ := scanner.place.splitAt?_offset
  obtain ⟨hchars, hoffset⟩ := eq_append_of_splitAt? hsplit
  rw [spot, hoffset] at hfirst
  have hboundary : IsBoundary scanner.source after.offset := hsource ▸ isBoundary_offset after.place
  have hcut : ∀ set, after.current = some set →
      set.CutFrom scanner.table scanner.source ∧ set.first.span.stop = after.offset := by
    intro set hset
    rw [hset] at hfirst
    exact First.cutFrom hvalues hchars hfirst
  refine ⟨htable, hsource, after.getLast?_modes, hboundary, fun set hset => (hcut set hset).1,
    fun set hset => Nat.le_of_eq (hcut set hset).2, fun _ set hset => (hcut set hset).2, fun hnone => ?_⟩
  have hrest : after.place.rest = [] := hfirst.rest_eq_nil hnone
  have hsize := after.place.offset_eq
  rw [hrest, byteSize_nil, Nat.add_zero] at hsize
  rw [← hsource]
  exact hsize

/-- A scan that fails leaves a scanner sound, with a token set that ends before the place. -/
theorem sound_of_advance_failed {error : Error} (hanchored : Anchored table.rules)
    (hsound : scanner.Sound table source failed) (h : scanner.advance = .failed error after) :
    after.Sound table source true := by
  obtain ⟨⟨place, rfl⟩, hle⟩ := advance_failed (hsound.anchored hanchored) h
  have hsource := hsound.source_eq
  subst hsource
  have hboundary := isBoundary_offset place
  refine ⟨hsound.table_eq, rfl, getLast?_modes _, hboundary, hsound.cut,
    fun set hset => Nat.le_trans (hsound.stop_le set hset) hle, fun hfalse => by contradiction,
    fun hnone => ?_⟩
  have hended := hsound.ended hnone
  exact Nat.le_antisymm hboundary.le_size (hended ▸ hle)

/-- Consuming a token set keeps a scanner sound, whether the scan that follows succeeds or fails. -/
theorem sound_next (hanchored : Anchored table.rules) (hvalues : Evaluating table.rules)
    (hsound : scanner.Sound table source failed) :
    scanner.next.after.Sound table source scanner.next.isFailed := by
  have hbehind : scanner.behindCurrent.Sound table source failed := hsound.rearranged _ _ _ _
  rw [next_eq]
  cases hadvance : scanner.behindCurrent.advance with
  | ok _ after =>
    exact sound_of_advance hanchored hvalues hbehind.table_eq hbehind.source_eq hadvance
  | failed error after => exact sound_of_advance_failed hanchored hbehind hadvance

/-! ## Looking ahead -/

/-- A step ahead is never misplaced by anchored rules, and leaves the rules as they are. -/
theorem stepAhead_anchored (hrules : Anchored scanner.rules) :
    (∀ rule, scanner.stepAhead.result ≠ .error (.misplacedMatch rule)) ∧
      scanner.stepAhead.after.rules = scanner.rules := by
  rw [stepAhead]
  split
  · exact ⟨by simp [Outcome.result], rfl⟩
  · exact ⟨by simp [Outcome.result], rfl⟩
  · rename_i rule place hfound
    obtain ⟨hholds, -⟩ := finding_holds hrules hfound
    cases hholds
  · exact ⟨by simp [Outcome.result], rfl⟩
  · exact ⟨by simp [Outcome.result], rfl⟩

theorem stepsAhead_anchored (hrules : Anchored scanner.rules) (last : Sighting) (count : Nat)
    (rule : String) :
    (scanner.stepsAhead last count).result ≠ .error (.misplacedMatch rule) := by
  induction count generalizing scanner last with
  | zero => simp [stepsAhead, Outcome.result]
  | succ count ih =>
    cases last with
    | atEnd => simp [stepsAhead, Outcome.result]
    | unknown => simp [stepsAhead, Outcome.result]
    | tokens set =>
      obtain ⟨hplaced, hsame⟩ := stepAhead_anchored hrules
      rw [stepsAhead]
      cases hstep : scanner.stepAhead with
      | failed error there =>
        rw [hstep] at hplaced
        simpa [Outcome.result] using hplaced rule
      | ok seen there =>
        rw [hstep, Outcome.after] at hsame
        have hthere : (there.stepsAhead seen count).result ≠ .error (.misplacedMatch rule) :=
          ih (hsame ▸ hrules) seen
        show (Outcome.map _ _).result ≠ _
        rw [result_map]
        cases hresult : (there.stepsAhead seen count).result with
        | ok value => simp [Except.map]
        | error error =>
          rw [hresult] at hthere
          simpa [Except.map] using hthere

/-- Looking ahead by anchored rules leaves a scanner as it is. -/
theorem after_lookAhead_anchored (hrules : Anchored scanner.rules) (count : Nat) :
    (scanner.lookAhead count).after = scanner := by
  rcases after_lookAhead scanner count with hsame | ⟨⟨rule, hrule⟩, -⟩
  · exact hsame
  · rw [result_lookAhead] at hrule
    exact absurd hrule (stepsAhead_anchored hrules _ _ _)

end Scanner

/-! ## Operations -/

namespace Operation

/-- Whether the last scan fails that is made to consume token sets one after another; nothing if no
token set is consumed. -/
def pullFails? (scanner : Scanner) : (limit : Nat) → Option Bool
  | 0 => none
  | limit + 1 =>
    match scanner.current, scanner.next with
    | none, _ => none
    | some _, .ok _ after => (pullFails? after limit).or (some false)
    | some _, .failed _ _ => some true

/-- Whether the last scan fails that an operation makes to consume tokens; nothing if it makes none.
Looking ahead is no such scan. -/
def scanFails? (scanner : Scanner) : Operation → Option Bool
  | .next => some scanner.next.isFailed
  | .tryConsumeAny rules | .consumeAny rules =>
    match scanner.alternatives rules with
    | [_] => some scanner.next.isFailed
    | _ => none
  | .pull limit => pullFails? scanner limit
  | _ => none

/-- The scanner after some operations, and whether a scan has failed since its token set was
produced; `failed` says so of the scanner before them. -/
def runAll (scanner : Scanner) (failed : Bool) : List Operation → Scanner × Bool
  | [] => (scanner, failed)
  | operation :: others =>
    runAll (operation.run scanner) ((operation.scanFails? scanner).getD failed) others

end Operation

namespace Scanner

variable {table : RuleTable} {source : Source} {failed : Bool} {scanner : Scanner}

/-- Where a token is consumed a scan follows, and otherwise nothing happens. -/
theorem sound_tryConsumeAny (hanchored : Anchored table.rules) (hvalues : Evaluating table.rules)
    (hsound : scanner.Sound table source failed) (rules : List String) :
    (scanner.tryConsumeAny rules).after.Sound table source
      (((Operation.tryConsumeAny rules).scanFails? scanner).getD failed) := by
  have hnext := sound_next hanchored hvalues hsound
  rw [tryConsumeAny, Operation.scanFails?]
  cases scanner.alternatives rules with
  | nil => exact hsound
  | cons first others =>
    cases others with
    | cons second others => exact hsound
    | nil =>
      cases hscan : scanner.next with
      | ok _ after => rwa [hscan] at hnext
      | failed error after => rwa [hscan] at hnext

/-- A scanner that has to consume a token is left as by trying to. -/
theorem after_consumeAny (scanner : Scanner) (rules : List String) :
    (scanner.consumeAny rules).after = (scanner.tryConsumeAny rules).after := by
  rw [consumeAny]
  split <;> simp_all [Outcome.after]

/-- Token sets are consumed one after another, with a scan behind each of them. -/
theorem sound_pull (hanchored : Anchored table.rules) (hvalues : Evaluating table.rules)
    (hsound : scanner.Sound table source failed) (limit : Nat) :
    (scanner.pull limit).2.Sound table source
      ((Operation.pullFails? scanner limit).getD failed) := by
  induction limit generalizing scanner failed with
  | zero => exact hsound
  | succ limit ih =>
    have hnext := sound_next hanchored hvalues hsound
    rw [pull, Operation.pullFails?]
    cases scanner.current with
    | none => exact hsound
    | some set =>
      cases hscan : scanner.next with
      | ok _ after =>
        rw [hscan] at hnext
        have hafter : (after.pull limit).2.Sound table source
            ((Operation.pullFails? after limit).getD false) := ih hnext
        show (after.pull limit).2.Sound table source
          (((Operation.pullFails? after limit).or (some false)).getD failed)
        cases hlater : Operation.pullFails? after limit with
        | none => rwa [hlater] at hafter
        | some last => rwa [hlater] at hafter
      | failed error after =>
        rw [hscan] at hnext
        cases error <;> exact hnext

/-- Looking ahead in any way leaves a scanner as it is. -/
theorem run_peek (hrules : Anchored scanner.rules) (count : Nat) :
    (Operation.peek count).run scanner = scanner := by
  rw [Operation.run, peek, after_map]
  exact after_lookAhead_anchored hrules count

theorem run_hasNext (hrules : Anchored scanner.rules) :
    Operation.hasNext.run scanner = scanner := by
  rw [Operation.run, hasNext]
  split
  · rfl
  · rw [after_map]
    exact run_peek hrules 1

theorem run_matchesSequence (hrules : Anchored scanner.rules) (rules : List String) :
    (Operation.matchesSequence rules).run scanner = scanner := by
  simp only [Operation.run, matchesSequence]
  split
  · rfl
  · split
    · rfl
    · split
      · rfl
      · rw [after_map]
        exact after_lookAhead_anchored hrules _

/-- Every operation keeps a scanner sound. -/
theorem sound_run (hanchored : Anchored table.rules) (hvalues : Evaluating table.rules)
    (hsound : scanner.Sound table source failed) (operation : Operation) :
    (operation.run scanner).Sound table source ((operation.scanFails? scanner).getD failed) := by
  have hrules := hsound.anchored hanchored
  cases operation with
  | next => exact sound_next hanchored hvalues hsound
  | peek count => exact (run_peek hrules count).symm ▸ hsound
  | hasNext => exact (run_hasNext hrules).symm ▸ hsound
  | matchesSequence rules => exact (run_matchesSequence hrules rules).symm ▸ hsound
  | tryConsumeAny rules => exact sound_tryConsumeAny hanchored hvalues hsound rules
  | consumeAny rules =>
    rw [Operation.run, after_consumeAny]
    exact sound_tryConsumeAny hanchored hvalues hsound rules
  | pushMode mode =>
    rw [Operation.run, pushMode]
    split <;> exact hsound.rearranged _ _ _ _
  | popMode =>
    rw [Operation.run, popMode]
    split <;> exact hsound.rearranged _ _ _ _
  | record => exact hsound.rearranged _ _ _ _
  | takeRecorded => exact hsound.rearranged _ _ _ _
  | pull limit => exact sound_pull hanchored hvalues hsound limit

theorem sound_runAll (hanchored : Anchored table.rules) (hvalues : Evaluating table.rules)
    (hsound : scanner.Sound table source failed) (operations : List Operation) :
    (Operation.runAll scanner failed operations).1.Sound table source
      (Operation.runAll scanner failed operations).2 := by
  induction operations generalizing scanner failed with
  | nil => exact hsound
  | cons operation others ih => exact ih (sound_run hanchored hvalues hsound operation)

/-! ## The end of the text -/

/-- A scanner at the end of its text stays there. -/
theorem current_run_eq_none (hanchored : Anchored table.rules)
    (hsound : scanner.Sound table source failed) (hcurrent : scanner.current = none)
    (operation : Operation) : (operation.run scanner).current = none := by
  have hrules := hsound.anchored hanchored
  have halternatives (rules : List String) : scanner.alternatives rules = [] := by
    simp [alternatives, currentTokens, hcurrent]
  cases operation with
  | next => rw [Operation.run, next_of_rest_eq_nil (hsound.rest_eq_nil hcurrent)]; rfl
  | peek count => rwa [run_peek hrules]
  | hasNext => rwa [run_hasNext hrules]
  | matchesSequence rules => rwa [run_matchesSequence hrules]
  | tryConsumeAny rules => rwa [Operation.run, tryConsumeAny, halternatives]
  | consumeAny rules => rwa [Operation.run, after_consumeAny, tryConsumeAny, halternatives]
  | pushMode mode =>
    rw [Operation.run, pushMode]
    split <;> exact hcurrent
  | popMode =>
    rw [Operation.run, popMode]
    split <;> exact hcurrent
  | record => exact hcurrent
  | takeRecorded => exact hcurrent
  | pull limit =>
    cases limit with
    | zero => exact hcurrent
    | succ limit => rwa [Operation.run, pull, hcurrent]

theorem current_runAll_eq_none (hanchored : Anchored table.rules)
    (hvalues : Evaluating table.rules) (hsound : scanner.Sound table source failed)
    (hcurrent : scanner.current = none) (operations : List Operation) :
    (Operation.runAll scanner failed operations).1.current = none := by
  induction operations generalizing scanner failed with
  | nil => exact hcurrent
  | cons operation others ih =>
    exact ih (sound_run hanchored hvalues hsound operation)
      (current_run_eq_none hanchored hsound hcurrent operation)

end Scanner

/-- **What holds of a scanner all the time.** By anchored rules, whose decoders give values if they
give anything, a scanner that was created for a text stays sound over all operations in a row,
successful ones and failed ones; asking for the current tokens of some rules is no operation, as it
gives no other scanner. Once the scanner is at the end of the text it is so after all further
operations. -/
theorem sound_after_runAll {table : RuleTable} {source : Source} {start last : Scanner}
    {failed : Bool} (hanchored : Anchored table.rules) (hvalues : Evaluating table.rules)
    (hcreated : Scanner.create table source = .ok () start) {operations : List Operation}
    (hlast : Operation.runAll start false operations = (last, failed)) :
    last.Sound table source failed ∧ last.sighting ≠ .unknown ∧
      (last.current = none →
        ∀ later, (Operation.runAll last failed later).1.current = none) := by
  have hstart : start.Sound table source false :=
    Scanner.sound_of_advance hanchored hvalues rfl rfl hcreated
  have hsound := Scanner.sound_runAll hanchored hvalues hstart operations
  rw [hlast] at hsound
  exact ⟨hsound, last.sighting_ne_unknown, fun hcurrent later =>
    Scanner.current_runAll_eq_none hanchored hvalues hsound hcurrent later⟩

/-- A scan that fails behind a blank leaves the token set where it was, two bytes before. -/
theorem sound_after_runAll_failed : ∃ table start last set,
    RuleTable.compile "words" true [{ name := "word", matcher := .regex "[a-zä]+" },
      { name := "blank", matcher := .regex " +", ignored := true }] = .ok table ∧
    Anchored table.rules ∧ Evaluating table.rules ∧
    Scanner.create table (.ofString "ä  9") = .ok () start ∧
    Operation.runAll start false [.record, .next, .peek 1] = (last, true) ∧
    last.Sound table (.ofString "ä  9") true ∧ last.current = some set ∧
    set.first.span.stop + 2 = last.offset := by
  have hrun : (RuleTable.compile "words" true [{ name := "word", matcher := .regex "[a-zä]+" },
      { name := "blank", matcher := .regex " +", ignored := true }]).toOption.any (fun table =>
        table.rules.all (fun rule => rule.regex.expr.anchored && rule.decoder.isNone) &&
          ((Scanner.create table (.ofString "ä  9")).result.isOk &&
            let outcome := Operation.runAll (Scanner.create table (.ofString "ä  9")).after false
              [.record, .next, .peek 1]
            outcome.2 && outcome.1.current.any fun set =>
              set.first.span.stop + 2 = outcome.1.offset)) = true := by
    decide +kernel
  obtain ⟨table, htable, hscan⟩ := (Option.any_eq_true _ _).1 hrun
  obtain ⟨hrules, hscan⟩ := Bool.and_eq_true_iff.1 hscan
  obtain ⟨hok, hscan⟩ := Bool.and_eq_true_iff.1 hscan
  have hrules := List.all_eq_true.1 hrules
  have hanchored : Anchored table.rules :=
    anchored_of_expr fun rule hmem => (Bool.and_eq_true_iff.1 (hrules rule hmem)).1
  have hvalues : Evaluating table.rules := by
    intro rule hmem text
    have hnone := Option.isNone_iff_eq_none.1 (Bool.and_eq_true_iff.1 (hrules rule hmem)).2
    rw [Rule.evaluate, hnone]
    simp
  cases hcreated : Scanner.create table (.ofString "ä  9") with
  | failed error last =>
    rw [hcreated] at hok
    contradiction
  | ok _ start =>
    rw [hcreated, Outcome.after] at hscan
    generalize hlast : Operation.runAll start false [.record, .next, .peek 1] = outcome at hscan
    obtain ⟨last, failed⟩ := outcome
    obtain ⟨rfl, hset⟩ := Bool.and_eq_true_iff.1 hscan
    obtain ⟨set, hcurrent, hstop⟩ := (Option.any_eq_true _ _).1 hset
    exact ⟨table, start, last, set, ok_of_toOption htable, hanchored, hvalues, hcreated, hlast,
      (sound_after_runAll hanchored hvalues hcreated hlast).1, hcurrent, of_decide_eq_true hstop⟩

end GrammarLang.Scan

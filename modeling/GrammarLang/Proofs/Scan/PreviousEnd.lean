import GrammarLang.Proofs.Scan.Consuming

/-! # Where the last consumed token ends

A scanner says where the last consumed token ends, so that the text from there to the current token
can be asked for. It moves this place on before the scan that decides whether the token set is
consumed at all. Hence **`previousEnd_after_runAll`**: unless a scan has failed since the current
token set was produced, the place is the end of the token set that was consumed last, and the text up
to the current token set is there; where one has failed, the place is the end of the current token
set, behind its start, and there is no text from the one to the other.

**`previousEnd_of_failed`** is a text on which the first scan fails: nothing is consumed, and yet the
end of the first token set is given. -/

namespace GrammarLang.Scan

open GrammarLang.Text

/-- From one place between characters to another one behind it there is text. -/
theorem isSome_slice? {source : Source} {span : Span} (hstart : IsBoundary source span.start)
    (hstop : IsBoundary source span.stop) (hle : span.start ≤ span.stop) :
    (source.slice? span).isSome = true := by
  obtain ⟨start, stop⟩ := span
  obtain ⟨before, rest, hchars, rfl⟩ := hstart
  obtain ⟨before', rest', hchars', rfl⟩ := hstop
  rw [Source.slice?, Option.isSome_map]
  rcases List.append_eq_append_iff.1 (hchars.symm.trans hchars') with
    ⟨middle, rfl, rfl⟩ | ⟨middle, rfl, rfl⟩
  · rw [hchars]
    simp
  · -- The places are in order, so that nothing is between them.
    have hmiddle : middle = [] := by
      by_contra hne
      have := byteSize_pos hne
      simp only [byteSize_append] at hle
      omega
    subst hmiddle
    have hempty := slice?_append before' [] rest
    simp_all

/-- Where a place is behind another one there is no text from it to the other. -/
theorem slice?_inverted {source : Source} {span : Span} (h : span.stop < span.start) :
    source.slice? span = none := by
  rw [Source.slice?, Text.slice?, if_neg (Nat.not_le.2 h)]
  rfl

/-- The end of the last of some token sets, or the start of the text if there is none. -/
def endOf (sets : List TokenSet) : Nat := (sets.getLast?.map (·.first.span.stop)).getD 0

@[simp] theorem endOf_concat (sets : List TokenSet) (set : TokenSet) :
    endOf (sets ++ [set]) = set.first.span.stop := by
  rw [endOf, List.getLast?_concat]
  rfl

namespace Scanner

/-- How the end of the last consumed token goes with the token sets consumed so far; `failed` says
that a scan has failed since the current token set was produced. -/
structure Trails (table : RuleTable) (source : Source) (failed : Bool) (sets : List TokenSet)
    (scanner : Scanner) : Prop where
  /-- The scanner is situated in the text. -/
  situated : scanner.Situated table source
  /-- The end lies between characters. -/
  boundary : IsBoundary source scanner.previousEnd
  /-- Unless a scan has failed, it is the end of the token set consumed last. -/
  behind : failed = false → scanner.previousEnd = endOf sets
  /-- Unless a scan has failed, the current token set is behind it. -/
  ordered : failed = false → scanner.previousEnd ≤ scanner.currentOffset
  /-- Where a scan has failed it is the end of the current token set. -/
  ahead : failed = true → ∃ set, scanner.current = some set ∧
    scanner.previousEnd = set.first.span.stop

variable {table : RuleTable} {source : Source} {failed : Bool} {sets : List TokenSet}
  {scanner : Scanner}

/-- Only the place and the token set matter, and the end itself. -/
theorem Trails.rearranged (h : scanner.Trails table source failed sets) (entered : List String)
    (recorded : Option (List TokenSet)) (told : List Entry) :
    { scanner with entered, recorded, told }.Trails table source failed sets :=
  ⟨h.situated.rearranged _ _ _ _, h.boundary, h.behind, h.ordered, h.ahead⟩

/-- A scanner just created has consumed nothing. -/
theorem trails_create (hanchored : Anchored table.rules)
    (h : create table source = .ok () scanner) : scanner.Trails table source false [] := by
  obtain ⟨-, -, -, -, hprevious, -⟩ := advance_first (anchored_rules hanchored rfl) h
  have hzero : scanner.previousEnd = 0 := hprevious
  refine ⟨situated_create hanchored h, ?_, fun _ => hzero, fun _ => ?_, fun hfailed => ?_⟩
  · rw [hzero]
    exact ⟨[], source.chars, rfl, rfl⟩
  · rw [hzero]
    exact Nat.zero_le _
  · contradiction

/-- A scan moves the end behind the current token set, whether it succeeds or fails. -/
theorem Trails.next (h : scanner.Trails table source failed sets)
    (hanchored : Anchored table.rules) :
    scanner.next.after.Trails table source scanner.next.isFailed (sets ++ scanner.consumed) := by
  rw [consumed]
  cases hnext : scanner.next with
  | failed error after =>
    obtain ⟨hafter, -, set, hcurrent, hsame, hprevious⟩ := h.situated.next_failed hnext
    obtain ⟨hlies, -⟩ := h.situated.current_liesIn set hcurrent
    -- The end is that of the current token set now, which stays.
    exact ⟨hafter, hprevious ▸ hlies.bounds.2, fun hfalse => by contradiction,
      fun hfalse => by contradiction, fun _ => ⟨set, hsame, hprevious⟩⟩
  | ok _ after =>
    obtain ⟨hafter, hle, hset, hprevious, -⟩ := h.situated.next_ok hanchored hnext
    have hbehind : ∀ place, place ≤ scanner.offset → place ≤ after.currentOffset := by
      intro place hplace
      rw [currentOffset]
      cases hcurrent : after.current with
      | none => exact Nat.le_trans hplace hle
      | some set => exact Nat.le_trans hplace (hset set hcurrent).1
    cases hcurrent : scanner.current with
    | some set =>
      obtain ⟨hlies, hstop⟩ := h.situated.current_liesIn set hcurrent
      have hend : after.previousEnd = set.first.span.stop := by
        rw [hprevious, hcurrent]
        rfl
      exact ⟨hafter, hend ▸ hlies.bounds.2, fun _ => hend.trans (endOf_concat _ _).symm,
        fun _ => hend ▸ hbehind _ hstop, fun htrue => by contradiction⟩
    | none =>
      -- At the end of the text no scan has failed, and nothing more is consumed.
      have hfailed : failed = false := by
        cases failed with
        | false => rfl
        | true =>
          obtain ⟨set, hset, -⟩ := h.ahead rfl
          rw [hcurrent] at hset
          contradiction
      have hend : after.previousEnd = scanner.previousEnd := by
        rw [hprevious, hcurrent]
        rfl
      have hplace : scanner.previousEnd ≤ scanner.offset := by
        have hordered := h.ordered hfailed
        rwa [currentOffset, hcurrent] at hordered
      exact ⟨hafter, hend ▸ h.boundary,
        fun _ => hend.trans ((h.behind hfailed).trans (by simp)),
        fun _ => hend ▸ hbehind _ hplace, fun htrue => by contradiction⟩

end Scanner

namespace Operation

/-- The token sets that operations in a row consume, in order. -/
def consumedAll (scanner : Scanner) : List Operation → List TokenSet
  | [] => []
  | operation :: others =>
    operation.consumed scanner ++ consumedAll (operation.run scanner) others

end Operation

namespace Scanner

variable {table : RuleTable} {source : Source} {failed : Bool} {sets : List TokenSet}
  {scanner : Scanner}

/-- What scans in a row count: whether the last one failed, and the token sets consumed. -/
theorem foldl_scans (scans : List Scanner) (failed : Bool) (sets : List TokenSet) :
    scans.foldl (fun count scanner => (scanner.next.isFailed, count.2 ++ scanner.consumed))
        (failed, sets) =
      ((scans.getLast?.map (·.next.isFailed)).getD failed, sets ++ scans.flatMap consumed) := by
  induction scans generalizing failed sets with
  | nil => simp
  | cons scanner scans ih =>
    rw [List.foldl_cons, ih, List.flatMap_cons, List.getLast?_cons, List.append_assoc]
    cases scans.getLast? <;> rfl

theorem carried_trails (hanchored : Anchored table.rules) :
    Carried (fun count scanner => scanner.Trails table source count.1 count.2)
      fun count scanner => (scanner.next.isFailed, count.2 ++ scanner.consumed) where
  anchored _ _ h := h.situated.anchored hanchored
  next _ _ h := h.next hanchored
  modes _ _ h _ _ := h.rearranged _ _ _

/-- Every operation keeps track of the end. -/
theorem trails_run (hanchored : Anchored table.rules)
    (h : scanner.Trails table source failed sets) (operation : Operation) :
    (operation.run scanner).Trails table source ((operation.scanFails? scanner).getD failed)
      (sets ++ operation.consumed scanner) := by
  have hrun := (carried_trails hanchored).run (failed, sets) h operation
    (fun _ => h.rearranged _ _ _) fun _ => h.rearranged _ _ _
  rwa [foldl_scans, ← Operation.scanFails?_eq] at hrun

theorem trails_runAll (hanchored : Anchored table.rules)
    (h : scanner.Trails table source failed sets) (operations : List Operation) :
    (Operation.runAll scanner failed operations).1.Trails table source
      (Operation.runAll scanner failed operations).2
      (sets ++ Operation.consumedAll scanner operations) := by
  induction operations generalizing scanner failed sets with
  | nil => simpa [Operation.runAll, Operation.consumedAll] using h
  | cons operation others ih =>
    have hothers := ih (trails_run hanchored h operation)
    rwa [List.append_assoc] at hothers

end Scanner

/-- **Where the last consumed token ends**, after any operations in a row, failed ones included. If
no scan has failed since the current token set was produced, this is the end of the token set
consumed last, or the start of the text if none was, and there is text from there to the current
token set. If one has failed, it is the end of the current token set although that is not consumed:
behind the start of it, so that there is no text from the one to the other. -/
theorem previousEnd_after_runAll {table : RuleTable} {source : Source} {start last : Scanner}
    {failed : Bool} (hanchored : Anchored table.rules)
    (hcreated : Scanner.create table source = .ok () start) {operations : List Operation}
    (hlast : Operation.runAll start false operations = (last, failed)) :
    (failed = false →
      last.previousEnd = endOf (Operation.consumedAll start operations) ∧
      last.previousEnd ≤ last.currentOffset ∧
      (source.slice? ⟨last.previousEnd, last.currentOffset⟩).isSome = true) ∧
    (failed = true → ∃ set, last.current = some set ∧ last.previousEnd = set.first.span.stop ∧
      last.currentOffset < last.previousEnd ∧
      source.slice? ⟨last.previousEnd, last.currentOffset⟩ = none) := by
  have htrails := Scanner.trails_runAll hanchored (Scanner.trails_create hanchored hcreated)
    operations
  rw [hlast] at htrails
  refine ⟨fun hfailed => ?_, fun hfailed => ?_⟩
  · have hordered := htrails.ordered hfailed
    have hoffset : IsBoundary source last.currentOffset := by
      rw [Scanner.currentOffset]
      cases hcurrent : last.current with
      | some set => exact (htrails.situated.current_liesIn set hcurrent).1.bounds.1
      | none => exact htrails.situated.source_eq ▸ isBoundary_offset last.place
    exact ⟨htrails.behind hfailed, hordered, isSome_slice? htrails.boundary hoffset hordered⟩
  · obtain ⟨set, hcurrent, hprevious⟩ := htrails.ahead hfailed
    obtain ⟨hlies, -⟩ := htrails.situated.current_liesIn set hcurrent
    have hlt : last.currentOffset < last.previousEnd := by
      rw [Scanner.currentOffset, hcurrent, hprevious]
      exact hlies.start_lt_stop
    exact ⟨set, hcurrent, hprevious, hlt, slice?_inverted hlt⟩

/-- No rule matches behind the first word: it is not consumed, and yet its end is given for that of
the last consumed token. -/
theorem previousEnd_of_failed : ∃ table start last,
    RuleTable.compile "words" true [{ name := "word", matcher := .regex "[a-z]+" }] = .ok table ∧
    Scanner.create table (.ofString "x#") = .ok () start ∧
    Operation.runAll start false [.next] = (last, true) ∧
    Operation.consumedAll start [.next] = [] ∧ last.current = start.current ∧
    last.previousEnd = 1 ∧ last.currentOffset = 0 ∧
    (Source.ofString "x#").slice? ⟨last.previousEnd, last.currentOffset⟩ = none := by
  obtain ⟨table, start, htable, hcreate, hcheck⟩ := Scanner.exists_scanner_of_check "words" true
    [{ name := "word", matcher := .regex "[a-z]+" }] (.ofString "x#") (fun table start =>
      table.rules.all (·.regex.expr.anchored) && start.next.isFailed &&
        start.next.after.previousEnd = 1 && start.next.after.currentOffset = 0)
    (by decide +kernel)
  simp only [Bool.and_eq_true, decide_eq_true_eq] at hcheck
  obtain ⟨⟨⟨hrules, hfailed⟩, hprevious⟩, hoffset⟩ := hcheck
  have hanchored : Anchored table.rules := anchored_of_expr (List.all_eq_true.1 hrules)
  have hlast : Operation.runAll start false [.next] = (start.next.after, true) := by
    rw [← hfailed]
    rfl
  obtain ⟨-, -, -, -, hslice⟩ :=
    (previousEnd_after_runAll hanchored hcreate hlast).2 rfl
  cases hnext : start.next with
  | ok value after =>
    rw [hnext] at hfailed
    contradiction
  | failed error after =>
    rw [hnext] at hlast hprevious hoffset hslice
    refine ⟨table, start, after, htable, hcreate, hlast, ?_, (Scanner.unmoved_next hnext).current,
      hprevious, hoffset, hslice⟩
    simp [Operation.consumedAll, Operation.consumed, Operation.scans, Scanner.consumed, hnext]

end GrammarLang.Scan

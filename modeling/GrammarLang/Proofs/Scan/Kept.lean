import GrammarLang.Proofs.Scan.Consuming

/-! # The token sets kept

From the moment a scanner is told to, it keeps the token sets it comes to, until they are taken
(**`takeRecorded_after_run`**): the one it stands at, and behind it those that later scans produce, in
order and each once. To look ahead, or to fail, adds nothing. They stand one behind another in the
text, unless the scanner is told again while it is at it: then the token set it stands at is added
again (**`takeRecorded_twice`**).

* **`Operation.kept`**, **`Operation.keptAll`** — what operations add to the token sets kept.
* **`Scanner.spread_producedAll`** — token sets produced one after another stand one behind another. -/

namespace GrammarLang.Scan

open GrammarLang.Text

namespace Operation

/-- The token sets that operations in a row come to, in order. -/
def producedAll (scanner : Scanner) : List Operation → List TokenSet
  | [] => []
  | operation :: others =>
    operation.produced scanner ++ producedAll (operation.run scanner) others

/-- The token sets that an operation adds to those kept, where token sets are kept at all. -/
def kept (scanner : Scanner) : Operation → List TokenSet
  | .record => scanner.current.toList
  | operation => operation.produced scanner

/-- The token sets that operations in a row add to those kept, in order. -/
def keptAll (scanner : Scanner) : List Operation → List TokenSet
  | [] => []
  | operation :: others => operation.kept scanner ++ keptAll (operation.run scanner) others

/-- Only to start keeping token sets adds one that is not produced then. -/
theorem kept_eq_produced {operation : Operation} (h : operation ≠ .record) (scanner : Scanner) :
    operation.kept scanner = operation.produced scanner := by
  cases operation with
  | record => contradiction
  | _ => rfl

theorem keptAll_eq_producedAll {operations : List Operation} (h : .record ∉ operations)
    (scanner : Scanner) : keptAll scanner operations = producedAll scanner operations := by
  induction operations generalizing scanner with
  | nil => rfl
  | cons operation others ih =>
    rw [List.mem_cons, not_or] at h
    rw [keptAll, producedAll, kept_eq_produced (Ne.symm h.1), ih h.2]

end Operation

namespace Scanner

variable {table : RuleTable} {source : Source} {scanner : Scanner} {sets : List TokenSet}

/-! ## Keeping token sets -/

/-- What scans in a row produce, behind what was counted before. -/
theorem foldl_produced (scans : List Scanner) (sets : List TokenSet) :
    scans.foldl (fun sets scanner => sets ++ scanner.produced) sets =
      sets ++ scans.flatMap produced := by
  induction scans generalizing sets with
  | nil => simp
  | cons scanner scans ih => rw [List.foldl_cons, ih, List.flatMap_cons, List.append_assoc]

/-- One token set, or none, is the same read backwards. -/
theorem reverse_toList (current : Option TokenSet) : current.toList.reverse = current.toList := by
  cases current <;> rfl

/-- Where token sets are kept, a scan adds the one that it produces; the latest stands first. -/
theorem recorded_next (h : scanner.Situated table source) (hanchored : Anchored table.rules) :
    scanner.next.after.recorded = scanner.recorded.map (scanner.produced.reverse ++ ·) := by
  rw [produced]
  cases hnext : scanner.next with
  | ok _ after =>
    obtain ⟨-, -, -, -, hrecorded⟩ := h.next_ok hanchored hnext
    simp only [reverse_toList]
    exact hrecorded
  | failed error after =>
    rw [Outcome.after, (unmoved_next hnext).recorded]
    exact Option.map_id'.symm

theorem carried_recorded (hanchored : Anchored table.rules) (kept : Option (List TokenSet)) :
    Carried (fun added scanner => scanner.Situated table source ∧
      scanner.recorded = kept.map (added.reverse ++ ·)) fun added scanner =>
        added ++ scanner.produced where
  anchored _ _ h := h.1.anchored hanchored
  next added scanner h := by
    refine ⟨h.1.next hanchored, ?_⟩
    rw [recorded_next h.1 hanchored, h.2, Option.map_map, List.reverse_append]
    simp only [Function.comp_def, List.append_assoc]
  modes _ _ h _ _ := ⟨h.1.rearranged _ _ _ _, h.2⟩

/-- Where token sets are kept, an operation adds those that it comes to. -/
theorem recorded_run_of_ne (h : scanner.Situated table source) (hanchored : Anchored table.rules)
    {operation : Operation} (hrecord : operation ≠ .record) (htake : operation ≠ .takeRecorded) :
    (operation.run scanner).recorded =
      scanner.recorded.map ((operation.produced scanner).reverse ++ ·) := by
  have hrun := (carried_recorded hanchored scanner.recorded).run [] ⟨h, Option.map_id'.symm⟩ operation
    (fun h => absurd h hrecord) fun h => absurd h htake
  rw [foldl_produced] at hrun
  exact hrun.2

/-- To start keeping token sets once more adds the one that the scanner stands at. -/
theorem recorded_run (h : scanner.Situated table source) (hanchored : Anchored table.rules)
    (hkept : scanner.recorded = some sets) {operation : Operation}
    (htake : operation ≠ .takeRecorded) :
    (operation.run scanner).recorded = some ((operation.kept scanner).reverse ++ sets) := by
  by_cases hrecord : operation = .record
  · subst hrecord
    rw [Operation.run, record, Operation.kept, hkept, reverse_toList]
    rfl
  · rw [recorded_run_of_ne h hanchored hrecord htake, Operation.kept_eq_produced hrecord, hkept]
    rfl

/-- Where no token sets are kept none are until the scanner is told to. -/
theorem recorded_run_eq_none (h : scanner.Situated table source) (hanchored : Anchored table.rules)
    (hkept : scanner.recorded = none) {operation : Operation} (hrecord : operation ≠ .record) :
    (operation.run scanner).recorded = none := by
  by_cases htake : operation = .takeRecorded
  · subst htake
    rfl
  · rw [recorded_run_of_ne h hanchored hrecord htake, hkept]
    rfl

/-- Operations in a row add what each of them adds. -/
theorem recorded_foldl (h : scanner.Situated table source) (hanchored : Anchored table.rules)
    (hkept : scanner.recorded = some sets) {operations : List Operation}
    (htake : .takeRecorded ∉ operations) :
    (operations.foldl Operation.run scanner).recorded =
      some ((Operation.keptAll scanner operations).reverse ++ sets) := by
  induction operations generalizing scanner sets with
  | nil => simpa [Operation.keptAll] using hkept
  | cons operation others ih =>
    -- The latest token set is kept first, so that what the operation adds stands behind the rest.
    rw [List.mem_cons, not_or] at htake
    have hoperation := recorded_run h hanchored hkept (Ne.symm htake.1)
    rw [List.foldl_cons, Operation.keptAll, List.reverse_append, List.append_assoc]
    exact ih (situated_run h hanchored operation) hoperation htake.2

theorem recorded_foldl_eq_none (h : scanner.Situated table source)
    (hanchored : Anchored table.rules) (hkept : scanner.recorded = none)
    {operations : List Operation} (hrecord : .record ∉ operations) :
    (operations.foldl Operation.run scanner).recorded = none := by
  induction operations generalizing scanner with
  | nil => exact hkept
  | cons operation others ih =>
    rw [List.mem_cons, not_or] at hrecord
    exact ih (situated_run h hanchored operation)
      (recorded_run_eq_none h hanchored hkept (Ne.symm hrecord.1)) hrecord.2

/-! ## The order of token sets -/

/-- Some token sets stand one behind another in the text, and the scanner behind all of them. -/
structure Behind (table : RuleTable) (source : Source) (sets : List TokenSet)
    (scanner : Scanner) : Prop where
  /-- The scanner is situated in the text. -/
  situated : scanner.Situated table source
  /-- The token sets stand one behind another. -/
  spread : Spread sets
  /-- They end where the scanner is, or before. -/
  stop_le : ∀ set ∈ sets, set.first.span.stop ≤ scanner.offset

/-- Only the place matters, and the token set. -/
theorem Behind.rearranged (h : scanner.Behind table source sets) (entered : List String)
    (recorded : Option (List TokenSet)) (told : List Entry) :
    { scanner with entered, recorded, told }.Behind table source sets :=
  ⟨h.situated.rearranged _ _ _ _, h.spread, h.stop_le⟩

/-- A scanner is behind the token set that it stands at. -/
theorem behind_current (h : scanner.Situated table source) :
    scanner.Behind table source scanner.current.toList := by
  refine ⟨h, ?_, fun set hset => (h.current_liesIn set (by simpa using hset)).2⟩
  cases hcurrent : scanner.current with
  | none => exact ⟨by simp, .nil⟩
  | some set =>
    obtain ⟨hlies, -⟩ := h.current_liesIn set hcurrent
    refine ⟨fun other hother => ?_, List.pairwise_singleton _ _⟩
    obtain rfl : other = set := by simpa using hother
    exact ⟨other.first.span, hlies.start_lt_stop, hlies.shared⟩

/-- A scan produces a token set behind those before it. -/
theorem Behind.next (h : scanner.Behind table source sets) (hanchored : Anchored table.rules) :
    scanner.next.after.Behind table source (sets ++ scanner.produced) := by
  rw [produced]
  cases hnext : scanner.next with
  | failed error after =>
    obtain ⟨hafter, hle, -⟩ := h.situated.next_failed hnext
    simp only [List.append_nil]
    exact ⟨hafter, h.spread, fun set hset => Nat.le_trans (h.stop_le set hset) hle⟩
  | ok _ after =>
    obtain ⟨hafter, hle, hset, -, -⟩ := h.situated.next_ok hanchored hnext
    have hcurrent := behind_current hafter
    refine ⟨hafter, ⟨?_, ?_⟩, ?_⟩
    · exact List.forall_mem_append.2 ⟨h.spread.stretch, hcurrent.spread.stretch⟩
    · refine List.pairwise_append.2 ⟨h.spread.order, hcurrent.spread.order, ?_⟩
      intro earlier hearlier later hlater
      exact Nat.le_trans (h.stop_le earlier hearlier) (hset later (by simpa using hlater)).1
    · exact List.forall_mem_append.2
        ⟨fun set hmem => Nat.le_trans (h.stop_le set hmem) hle, hcurrent.stop_le⟩

theorem carried_behind (hanchored : Anchored table.rules) :
    Carried (fun sets scanner => scanner.Behind table source sets) fun sets scanner =>
      sets ++ scanner.produced where
  anchored _ _ h := h.situated.anchored hanchored
  next _ _ h := h.next hanchored
  modes _ _ h _ _ := h.rearranged _ _ _

/-- Every operation produces token sets behind those before it. -/
theorem behind_run (h : scanner.Behind table source sets) (hanchored : Anchored table.rules)
    (operation : Operation) :
    (operation.run scanner).Behind table source (sets ++ operation.produced scanner) := by
  have hrun := (carried_behind hanchored).run sets h operation (fun _ => h.rearranged _ _ _)
    fun _ => h.rearranged _ _ _
  rwa [foldl_produced] at hrun

/-- Token sets produced one after another stand one behind another, behind those before them. -/
theorem spread_producedAll (h : scanner.Behind table source sets)
    (hanchored : Anchored table.rules) (operations : List Operation) :
    Spread (sets ++ Operation.producedAll scanner operations) := by
  induction operations generalizing scanner sets with
  | nil => simpa [Operation.producedAll] using h.spread
  | cons operation others ih =>
    rw [Operation.producedAll, ← List.append_assoc]
    exact ih (behind_run h hanchored operation)

end Scanner

/-- **The token sets kept.** A scanner that keeps none has none to hand over until it is told to keep
them. From then on it keeps the token set that it stands at and those that operations add, in order,
and once they are taken it keeps none. The token sets added are those produced, and all of them stand
one behind another in the text, if the scanner is not told again in the meantime; if it is, then it
adds the token set that it stands at. -/
theorem takeRecorded_after_run {table : RuleTable} {source : Source} {scanner : Scanner}
    (hanchored : Anchored table.rules) (hreachable : Reachable table source scanner)
    (hnone : scanner.recorded = none) {before later : List Operation} (hbefore : .record ∉ before)
    (hlater : .takeRecorded ∉ later) {start last : Scanner}
    (hstart : before.foldl Operation.run scanner = start)
    (hlast : later.foldl Operation.run start.record = last) :
    start.takeRecorded.1 = [] ∧
    last.takeRecorded.1 = start.current.toList ++ Operation.keptAll start.record later ∧
    last.takeRecorded.2.recorded = none ∧
    (.record ∉ later →
      Operation.keptAll start.record later = Operation.producedAll start.record later ∧
      Spread last.takeRecorded.1) := by
  have hsituated : start.Situated table source :=
    hstart ▸ (hreachable.foldl before).situated hanchored
  have hrecord : start.record.Situated table source := hsituated.rearranged _ _ _ _
  have hempty : start.recorded = none := by
    rw [← hstart]
    exact Scanner.recorded_foldl_eq_none (hreachable.situated hanchored) hanchored hnone hbefore
  have hkept : start.record.recorded = some start.current.toList := by
    rw [Scanner.record, hempty]
    simp
  have hfirst : start.takeRecorded.1 = [] := by
    rw [Scanner.takeRecorded, hempty]
    rfl
  have hlists : last.takeRecorded.1 =
      start.current.toList ++ Operation.keptAll start.record later := by
    rw [← hlast, Scanner.takeRecorded, Scanner.recorded_foldl hrecord hanchored hkept hlater]
    simp [Scanner.reverse_toList]
  refine ⟨hfirst, hlists, rfl, fun hagain => ?_⟩
  have hproduced := Operation.keptAll_eq_producedAll hagain start.record
  refine ⟨hproduced, ?_⟩
  rw [hlists, hproduced]
  exact Scanner.spread_producedAll ((Scanner.behind_current hsituated).rearranged _ _ _) hanchored
    later

/-- A scanner that is told twice to keep token sets keeps the one that it stands at twice, so that
these do not stand one behind another. -/
theorem takeRecorded_twice : ∃ table scanner set,
    RuleTable.compile "words" true [{ name := "word", matcher := .regex "[a-z]+" }] = .ok table ∧
    Scanner.create table (.ofString "x") = .ok () scanner ∧ scanner.current = some set ∧
    scanner.record.record.takeRecorded.1 = [set, set] ∧ ¬ Spread [set, set] := by
  obtain ⟨table, scanner, htable, hcreate, hcheck⟩ := Scanner.exists_scanner_of_check "words" true
    [{ name := "word", matcher := .regex "[a-z]+" }] (.ofString "x") (fun _ scanner =>
      scanner.recorded.isNone && scanner.current.any fun set => set.first.span = ⟨0, 1⟩)
    (by decide +kernel)
  obtain ⟨hnone, hset⟩ := Bool.and_eq_true_iff.1 hcheck
  obtain ⟨set, hcurrent, hspan⟩ := (Option.any_eq_true _ _).1 hset
  have hspan := of_decide_eq_true hspan
  refine ⟨table, scanner, set, htable, hcreate, hcurrent, ?_, fun hspread => ?_⟩
  · simp [Scanner.takeRecorded, Scanner.record, hcurrent, Option.isNone_iff_eq_none.1 hnone]
  · have horder := (List.pairwise_cons.1 hspread.order).1 set List.mem_cons_self
    rw [hspan] at horder
    contradiction

end GrammarLang.Scan

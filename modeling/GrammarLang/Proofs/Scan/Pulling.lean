import GrammarLang.Proofs.Scan.Retry

/-! # Token sets taken in portions

Token sets may be taken some at a time, where each portion starts with the token set that the scanner
stands at. As long as every scan made on the way succeeds, portions put together are what is taken at
once (**`pull_in_portions`**). Where a scan fails the token set before it is handed out and yet stays
the current one: the next portion starts with the same token set, and ends with the same failure.

* **`Scanner.Pulls`** — token sets that are consumed one after another.
* **`Scanner.portions`** — what is taken in two portions.
* **`portions_repeated`** — a word in front of unknown text is handed out twice. -/

namespace GrammarLang.Scan

open GrammarLang.Text

namespace Scanner

/-- Token sets are consumed one after another, and every scan for the next one succeeds. -/
inductive Pulls : Scanner → List TokenSet → Scanner → Prop
  /-- Nothing is consumed. -/
  | nil (scanner : Scanner) : Pulls scanner [] scanner
  /-- The current token set is consumed, and others behind it. -/
  | cons {scanner after last : Scanner} {set : TokenSet} {sets : List TokenSet}
      (current : scanner.current = some set) (next : scanner.next = .ok () after)
      (others : Pulls after sets last) : Pulls scanner (set :: sets) last

variable {scanner last : Scanner} {sets : List TokenSet}

/-- No more token sets are consumed than there may be. -/
theorem Pulls.remaining_le (h : scanner.Pulls sets last) :
    sets.length + last.remaining ≤ scanner.remaining := by
  induction h with
  | nil => simp
  | cons current next _ ih =>
    have := remaining_next next (by rw [current]; rfl)
    rw [List.length_cons]
    omega

/-- The first of the token sets consumed are consumed first. -/
theorem Pulls.split (h : scanner.Pulls sets last) (count : Nat) :
    ∃ middle, scanner.Pulls (sets.take count) middle ∧ middle.Pulls (sets.drop count) last := by
  induction h generalizing count with
  | nil scanner => exact ⟨scanner, by simpa using .nil scanner, by simpa using .nil scanner⟩
  | @cons scanner after last set sets current next others ih =>
    cases count with
    | zero => exact ⟨scanner, .nil scanner, .cons current next others⟩
    | succ count =>
      obtain ⟨middle, hfirst, hothers⟩ := ih count
      exact ⟨middle, .cons current next hfirst, hothers⟩

/-- Token sets that are consumed are taken, and what is taken behind them is taken from there. -/
theorem Pulls.pull_eq (h : scanner.Pulls sets last) (more : Nat) :
    scanner.pull (sets.length + more) = (sets.map .ok ++ (last.pull more).1, (last.pull more).2) := by
  induction h with
  | nil => simp
  | @cons scanner after last set sets current next others ih =>
    rw [List.length_cons, Nat.add_right_comm, pull]
    simp only [current, next, ih]
    rfl

/-- At the end of the text nothing is taken. -/
theorem pull_of_current_eq_none (h : scanner.current = none) (limit : Nat) :
    scanner.pull limit = ([], scanner) := by
  cases limit with
  | zero => rfl
  | succ limit => rw [pull, h]

/-- What is taken where the scan for the next token set fails: the token set and the failure; a
misplaced match, at which everything stops, comes in place of both. -/
def lastItems (set : TokenSet) : Error → List (Except Error TokenSet)
  | .misplacedMatch rule => [.error (.misplacedMatch rule)]
  | error => [.ok set, .error error]

/-- A failed scan ends a portion that is large enough, and leaves the scanner behind it in any case. -/
theorem pull_of_failed {set : TokenSet} {error : Error} {after : Scanner}
    (hcurrent : scanner.current = some set) (hnext : scanner.next = .failed error after)
    (limit : Nat) : scanner.pull (limit + 1) = ((lastItems set error).take (limit + 1), after) := by
  rw [pull, hcurrent, hnext]
  cases error <;> simp [lastItems]

theorem pullAll_of_failed {set : TokenSet} {error : Error} {after : Scanner}
    (hcurrent : scanner.current = some set) (hnext : scanner.next = .failed error after) :
    scanner.pullAll = (lastItems set error, after) := by
  have hremaining : scanner.remaining + 1 = scanner.place.left + 1 + 1 := by
    rw [remaining, hcurrent]
    rfl
  rw [pullAll, hremaining, pull_of_failed hcurrent hnext, List.take_of_length_le]
  cases error <;> simp [lastItems]

/-- Where a scan has failed it fails again, so that the same is taken again. -/
theorem pullAll_again {set : TokenSet} {error : Error} {after : Scanner}
    (hcurrent : scanner.current = some set) (hnext : scanner.next = .failed error after) :
    after.pullAll = (lastItems set error, after) :=
  pullAll_of_failed ((unmoved_next hnext).current.trans hcurrent) (next_again hnext _ _)

/-! ## All token sets -/

/-- No further token set is consumed: the text ends, or the scan for the next one fails. -/
def Ends (scanner : Scanner) : Prop :=
  scanner.current = none ∨
    ∃ set error after, scanner.current = some set ∧ scanner.next = .failed error after

/-- Token sets can be consumed until no further one can be. -/
theorem exists_pulls (scanner : Scanner) : ∃ sets last, scanner.Pulls sets last ∧ last.Ends := by
  -- The induction is on what is left of the text: each token set consumed makes it less.
  generalize hmeasure : scanner.remaining = measure
  induction measure using Nat.strongRecOn generalizing scanner with
  | _ measure ih =>
    cases hcurrent : scanner.current with
    | none => exact ⟨[], scanner, .nil scanner, .inl hcurrent⟩
    | some set =>
      cases hnext : scanner.next with
      | failed error after =>
        exact ⟨[], scanner, .nil scanner, .inr ⟨set, error, after, hcurrent, hnext⟩⟩
      | ok _ after =>
        have hless := remaining_next hnext (by rw [hcurrent]; rfl)
        obtain ⟨sets, last, hpulls, hends⟩ := ih _ (hmeasure ▸ hless) after rfl
        exact ⟨set :: sets, last, .cons hcurrent hnext hpulls, hends⟩

/-- No portion is larger than the one that takes all. -/
theorem Ends.pull_eq (h : last.Ends) (more : Nat) :
    last.pull (last.remaining + 1 + more) = last.pullAll := by
  rcases h with hcurrent | ⟨set, error, after, hcurrent, hnext⟩
  · rw [pullAll, pull_of_current_eq_none hcurrent, pull_of_current_eq_none hcurrent]
  · have hlimit : last.remaining + 1 + more = last.place.left + more + 1 + 1 := by
      rw [remaining, hcurrent]
      simp only [Option.isSome_some, if_true]
      omega
    rw [hlimit, pull_of_failed hcurrent hnext, pullAll_of_failed hcurrent hnext,
      List.take_of_length_le]
    cases error <;> simp [lastItems]

/-- All that is taken are the token sets consumed, and what is taken behind them. -/
theorem Pulls.pullAll_eq (h : scanner.Pulls sets last) (hends : last.Ends) :
    scanner.pullAll = (sets.map .ok ++ last.pullAll.1, last.pullAll.2) := by
  have hle := h.remaining_le
  -- The limit that takes all of one scanner is beyond the one that takes all of the other.
  have hlimit : scanner.remaining + 1 =
      sets.length + (last.remaining + 1 + (scanner.remaining - sets.length - last.remaining)) := by
    omega
  rw [pullAll, hlimit, h.pull_eq, hends.pull_eq]

/-! ## Two portions -/

/-- What is taken in two portions, where the first one has so many items at most. -/
def portions (scanner : Scanner) (count : Nat) : List (Except Error TokenSet) :=
  (scanner.pull count).1 ++ (scanner.pull count).2.pullAll.1

/-- As long as the token sets of the first portion are consumed, the second one starts behind
them. -/
theorem Pulls.portions_eq (h : scanner.Pulls sets last) (hends : last.Ends) {count : Nat}
    (hcount : count ≤ sets.length) : scanner.portions count = scanner.pullAll.1 := by
  -- The first portion ends at a scanner on the way, from which the other token sets are consumed.
  obtain ⟨middle, hfirst, hothers⟩ := h.split count
  have hpull := hfirst.pull_eq 0
  rw [List.length_take, Nat.min_eq_left hcount] at hpull
  rw [portions, show count = count + 0 from rfl, hpull, h.pullAll_eq hends]
  simp only [pull, List.append_nil]
  rw [hothers.pullAll_eq hends, ← List.append_assoc, ← List.map_append, List.take_append_drop]

/-- At the end of the text the second portion is empty. -/
theorem Pulls.portions_of_none (h : scanner.Pulls sets last) (hcurrent : last.current = none)
    {count : Nat} (hcount : sets.length ≤ count) :
    scanner.portions count = scanner.pullAll.1 := by
  obtain ⟨more, rfl⟩ := Nat.exists_eq_add_of_le hcount
  have hends : last.pullAll = ([], last) := pull_of_current_eq_none hcurrent _
  rw [portions, h.pull_eq, h.pullAll_eq (.inl hcurrent), pull_of_current_eq_none hcurrent, hends,
    List.append_nil, List.append_nil]

/-- Behind a failed scan the second portion has the items once more that come of it. -/
theorem Pulls.portions_of_failed {set : TokenSet} {error : Error} {after : Scanner}
    (h : scanner.Pulls sets last) (hcurrent : last.current = some set)
    (hnext : last.next = .failed error after) {count : Nat} (hcount : sets.length < count) :
    scanner.portions count = scanner.pullAll.1.take count ++ lastItems set error := by
  obtain ⟨more, rfl⟩ := Nat.exists_eq_add_of_lt hcount
  have hends : last.Ends := .inr ⟨set, error, after, hcurrent, hnext⟩
  -- The first portion has all token sets consumed, and of the last items as many as it may.
  have htake : (sets.map Except.ok ++ lastItems set error).take (sets.length + (more + 1)) =
      sets.map .ok ++ (lastItems set error).take (more + 1) := by
    rw [List.take_append, List.length_map, Nat.add_sub_cancel_left, List.take_of_length_le]
    simp
  rw [portions, Nat.add_assoc, h.pull_eq, pull_of_failed hcurrent hnext, h.pullAll_eq hends,
    pullAll_of_failed hcurrent hnext, pullAll_again hcurrent hnext, htake]

end Scanner

/-- **Token sets taken in two portions.** Token sets are consumed one after another until the text
ends or a scan fails, and all items are these token sets and, at a failure, the token set before it
and the failure itself. If the text ends then two portions put together are all items, wherever they
are divided. If a scan fails then they are so as long as the first portion holds consumed token sets
only; otherwise the second portion has the last token set and the failure once more. -/
theorem pull_in_portions (scanner : Scanner) : ∃ sets last, scanner.Pulls sets last ∧
    (last.current = none ∧ scanner.pullAll.1 = sets.map .ok ∧
        (∀ count, scanner.portions count = scanner.pullAll.1) ∨
      ∃ set error after, last.current = some set ∧ last.next = .failed error after ∧
        scanner.pullAll.1 = sets.map .ok ++ Scanner.lastItems set error ∧
        (∀ count ≤ sets.length, scanner.portions count = scanner.pullAll.1) ∧
        ∀ count, sets.length < count →
          scanner.portions count = scanner.pullAll.1.take count ++ Scanner.lastItems set error) := by
  obtain ⟨sets, last, hpulls, hends⟩ := scanner.exists_pulls
  have hall := hpulls.pullAll_eq hends
  refine ⟨sets, last, hpulls, ?_⟩
  rcases hends with hcurrent | ⟨set, error, after, hcurrent, hnext⟩
  · refine .inl ⟨hcurrent, ?_, fun count => ?_⟩
    · rw [hall, Scanner.pullAll, Scanner.pull_of_current_eq_none hcurrent, List.append_nil]
    · rcases Nat.le_total count sets.length with hle | hle
      · exact hpulls.portions_eq (.inl hcurrent) hle
      · exact hpulls.portions_of_none hcurrent hle
  · refine .inr ⟨set, error, after, hcurrent, hnext, ?_, fun count hle => ?_, fun count hlt => ?_⟩
    · rw [hall, Scanner.pullAll_of_failed hcurrent hnext]
    · exact hpulls.portions_eq (.inr ⟨set, error, after, hcurrent, hnext⟩) hle
    · exact hpulls.portions_of_failed hcurrent hnext hlt

/-- A word in front of unknown text is handed out by the first portion and by the second one, and so
comes twice. -/
theorem portions_repeated : ∃ table scanner set error,
    RuleTable.compile "words" true [{ name := "word", matcher := .regex "[a-z]+" }] = .ok table ∧
    Scanner.create table (.ofString "x#") = .ok () scanner ∧
    scanner.pullAll.1 = [.ok set, .error error] ∧
    scanner.portions 1 = [.ok set, .ok set, .error error] := by
  obtain ⟨table, scanner, htable, hcreate, hcheck⟩ := Scanner.exists_scanner_of_check "words" true
    [{ name := "word", matcher := .regex "[a-z]+" }] (.ofString "x#") (fun _ scanner =>
      scanner.current.isSome && scanner.next.result = .error (.invalidToken '#' ⟨1, 2⟩))
    (by decide +kernel)
  simp only [Bool.and_eq_true, decide_eq_true_eq] at hcheck
  obtain ⟨hset, herror⟩ := hcheck
  obtain ⟨set, hcurrent⟩ := Option.isSome_iff_exists.1 hset
  cases hnext : scanner.next with
  | ok value after =>
    rw [hnext] at herror
    contradiction
  | failed error after =>
    rw [hnext] at herror
    obtain rfl := Except.error.inj herror
    have hall := Scanner.pullAll_of_failed hcurrent hnext
    refine ⟨table, scanner, set, .invalidToken '#' ⟨1, 2⟩, htable, hcreate, ?_, ?_⟩
    · rw [hall]
      rfl
    · rw [(Scanner.Pulls.nil scanner).portions_of_failed hcurrent hnext Nat.one_pos, hall]
      rfl

end GrammarLang.Scan

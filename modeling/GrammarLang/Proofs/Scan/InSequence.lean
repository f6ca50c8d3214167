import GrammarLang.Proofs.Scan.LookAhead

/-! # Token sets with given rules in a row

**`Scanner.matchesSequence`** looks ahead once, over as many places as rules are asked for, and
**`Scanner.peek`** looks at one place. Both see the same: what is seen at fewer places is the
beginning of what is seen at more (**`Scanner.result_stepsAhead_take`**), and a failure on the way to
a place is a failure on the way to all places behind it (**`Scanner.result_stepsAhead_error`**).

* **`Scanner.PeeksInRow`** — rules are seen one after another, each by a look of its own.
* **`matchesSequence_by_peeks`** — asking for rules in a row comes to what the single looks come to. -/

namespace GrammarLang.Scan

open GrammarLang.Text

/-- A token set is known to hold a token of a rule by that token. -/
theorem TokenSet.contains_iff {set : TokenSet} {rule : String} :
    set.contains rule = true ↔ ∃ token ∈ set.toList, token.rule = rule := by
  simp [contains, find?]

/-- So is what is seen. -/
theorem Sighting.contains_iff_mem {seen : Sighting} {rule : String} :
    seen.contains rule = true ↔ ∃ token ∈ seen.toList, token.rule = rule := by
  cases seen with
  | tokens set => exact TokenSet.contains_iff
  | atEnd => simp [contains, toList]
  | unknown => simp [contains, toList]

namespace Scanner

variable {scanner : Scanner} {last : Sighting} {count more : Nat} {error : Error}
  {seen : List Sighting}

/-! ## What is seen at fewer places -/

/-- Behind a token set a step is made, and what follows is seen from there. -/
theorem result_stepsAhead_succ (scanner : Scanner) (set : TokenSet) (count : Nat) :
    (scanner.stepsAhead (.tokens set) (count + 1)).result =
      match scanner.stepAhead with
      | .failed error _ => .error error
      | .ok first there => (there.stepsAhead first count).result.map (first :: ·) := by
  rw [stepsAhead]
  cases scanner.stepAhead with
  | failed error there => rfl
  | ok first there => exact result_map _ _

/-- So where places behind a token set are seen, the first of them is seen by a step, and the others
from there. -/
theorem exists_of_stepsAhead_succ {set : TokenSet}
    (h : (scanner.stepsAhead (.tokens set) (count + 1)).result = .ok seen) :
    ∃ first there later, scanner.stepAhead = .ok first there ∧
      (there.stepsAhead first count).result = .ok later ∧ seen = first :: later := by
  rw [result_stepsAhead_succ] at h
  split at h
  · contradiction
  · rename_i first there hstep
    cases hlater : (there.stepsAhead first count).result with
    | error error => simp [hlater, Except.map] at h
    | ok later =>
      simp only [hlater, Except.map, Except.ok.injEq] at h
      exact ⟨first, there, later, hstep, hlater, h.symm⟩

/-- As many places are seen as are asked for. -/
theorem length_of_stepsAhead (h : (scanner.stepsAhead last count).result = .ok seen) :
    seen.length = count := by
  induction count generalizing scanner last seen with
  | zero =>
    cases h
    rfl
  | succ count ih =>
    cases last with
    -- Where there is nothing behind, the same is seen at every place.
    | atEnd =>
      cases h
      exact List.length_replicate
    | unknown =>
      cases h
      exact List.length_replicate
    | tokens set =>
      obtain ⟨first, there, later, -, hlater, rfl⟩ := exists_of_stepsAhead_succ h
      rw [List.length_cons, ih hlater]

/-- What is seen at fewer places is the beginning of what is seen at more. -/
theorem result_stepsAhead_take (h : (scanner.stepsAhead last more).result = .ok seen)
    (hcount : count ≤ more) : (scanner.stepsAhead last count).result = .ok (seen.take count) := by
  -- Both looks make the same steps, until the one at fewer places is done.
  induction count generalizing scanner last more seen with
  | zero => simp [stepsAhead, Outcome.result]
  | succ count ih =>
    obtain ⟨more, rfl⟩ : ∃ fewer, more = fewer + 1 := ⟨more - 1, by omega⟩
    cases last with
    | atEnd =>
      cases h
      simp [stepsAhead, Outcome.result, List.take_replicate, Nat.min_eq_left hcount]
    | unknown =>
      cases h
      simp [stepsAhead, Outcome.result, List.take_replicate, Nat.min_eq_left hcount]
    | tokens set =>
      obtain ⟨first, there, later, hstep, hlater, rfl⟩ := exists_of_stepsAhead_succ h
      rw [result_stepsAhead_succ, hstep]
      simp only [ih hlater (Nat.le_of_succ_le_succ hcount), Except.map, List.take_succ_cons]

/-- A failure on the way to a place is one on the way to all places behind it. -/
theorem result_stepsAhead_error (h : (scanner.stepsAhead last count).result = .error error)
    (hcount : count ≤ more) : (scanner.stepsAhead last more).result = .error error := by
  induction count generalizing scanner last more with
  | zero => simp [stepsAhead, Outcome.result] at h
  | succ count ih =>
    obtain ⟨more, rfl⟩ : ∃ fewer, more = fewer + 1 := ⟨more - 1, by omega⟩
    cases last with
    | atEnd => contradiction
    | unknown => contradiction
    | tokens set =>
      rw [result_stepsAhead_succ] at h ⊢
      cases hstep : scanner.stepAhead with
      | failed failure there =>
        -- The first step fails, whatever number of places is asked for.
        rw [hstep] at h
        exact h
      | ok first there =>
        rw [hstep] at h
        cases hlater : (there.stepsAhead first count).result with
        | ok later => simp [hlater, Except.map] at h
        | error failure =>
          obtain rfl : failure = error := by simpa [hlater, Except.map] using h
          simp only [ih hlater (Nat.le_of_succ_le_succ hcount), Except.map]

/-! ## What is seen at one place -/

/-- One of several places that are seen is seen by itself as well. -/
theorem result_peek_of_lookAhead {index : Nat} (h : (scanner.lookAhead more).result = .ok seen)
    (hindex : index < more) :
    ∃ sighting, seen[index]? = some sighting ∧
      (scanner.peek (index + 1)).result = .ok sighting := by
  rw [result_lookAhead] at h
  have hlength := length_of_stepsAhead h
  have htake := result_stepsAhead_take h (Nat.succ_le_of_lt hindex)
  refine ⟨seen[index], List.getElem?_eq_getElem _, ?_⟩
  rw [peek, result_map, result_lookAhead, htake, Except.map, List.getLast?_take]
  simp [List.getElem?_eq_getElem (show index < seen.length by omega)]

/-- A place that cannot be looked at is the end of a look at it and others behind it. -/
theorem result_lookAhead_of_peek {place : Nat} (h : (scanner.peek place).result = .error error)
    (hplace : place ≤ more) : (scanner.lookAhead more).result = .error error := by
  rw [peek, result_map, result_lookAhead] at h
  rw [result_lookAhead]
  cases hsteps : (scanner.stepsAhead scanner.sighting place).result with
  | ok seen => simp [hsteps, Except.map] at h
  | error failure =>
    simp only [hsteps, Except.map, Except.error.injEq] at h
    rw [← h]
    exact result_stepsAhead_error hsteps hplace

/-! ## Rules in a row -/

/-- Single looks see rules one after another behind the current token set: at each place there is a
token of the rule that is asked for there. -/
def PeeksInRow (scanner : Scanner) (rules : List String) : Prop :=
  ∀ index rule, rules[index]? = some rule →
    ∃ seen, (scanner.peek (index + 1)).result = .ok seen ∧ ∃ token ∈ seen.toList, token.rule = rule

/-- Rules are seen in a row just if each is among what is seen at its place. -/
theorem peeksInRow_iff {rules : List String}
    (h : (scanner.lookAhead rules.length).result = .ok seen) :
    scanner.PeeksInRow rules ↔
      ((rules.zip seen).all fun (rule, sighting) => sighting.contains rule) = true := by
  have hlength : seen.length = rules.length := by
    rw [result_lookAhead] at h
    exact length_of_stepsAhead h
  rw [List.all_eq_true]
  constructor
  · rintro hrow ⟨rule, sighting⟩ hmem
    obtain ⟨index, hindex⟩ := List.mem_iff_getElem?.1 hmem
    obtain ⟨hrule, hsighting⟩ := List.getElem?_zip_eq_some.1 hindex
    obtain ⟨sighting', hsighting', hpeek⟩ :=
      result_peek_of_lookAhead h (List.getElem?_eq_some_iff.1 hrule).1
    obtain ⟨seen', hseen', hcontains⟩ := hrow index rule hrule
    obtain rfl : sighting = sighting' := Option.some.inj (hsighting.symm.trans hsighting')
    obtain rfl : sighting = seen' := Except.ok.inj (hpeek.symm.trans hseen')
    exact Sighting.contains_iff_mem.2 hcontains
  · intro hall index rule hrule
    obtain ⟨sighting, hsighting, hpeek⟩ :=
      result_peek_of_lookAhead h (List.getElem?_eq_some_iff.1 hrule).1
    have hmem : (rule, sighting) ∈ rules.zip seen :=
      List.mem_iff_getElem?.2 ⟨index, List.getElem?_zip_eq_some.2 ⟨hrule, hsighting⟩⟩
    exact ⟨sighting, hpeek, Sighting.contains_iff_mem.1 (hall _ hmem)⟩

/-- The first current token of a rule is found among the current tokens. -/
theorem matching?_eq (scanner : Scanner) (rule : String) :
    scanner.matching? rule = scanner.currentTokens.find? fun token => token.rule = rule := by
  rw [matching?, currentTokens]
  cases scanner.current <;> rfl

/-- Unless a match is misplaced, asking for rules in a row leaves the scanner as it is. -/
theorem after_matchesSequence (scanner : Scanner) (rules : List String) :
    (scanner.matchesSequence rules).after = scanner ∨
      ∃ rule, (scanner.matchesSequence rules).result = .error (.misplacedMatch rule) := by
  simp only [matchesSequence]
  split
  · exact .inl rfl
  · rename_i others
    split
    · exact .inl rfl
    · split
      · exact .inl rfl
      · rw [after_map, result_map]
        rcases after_lookAhead scanner others.length with hsame | ⟨⟨rule, hrule⟩, -⟩
        · exact .inl hsame
        · exact .inr ⟨rule, by rw [hrule]; rfl⟩

/-- With a token of the first rule at hand, the answer hangs on one look at all places. -/
theorem result_matchesSequence (scanner : Scanner) {rule : String} {token : Token}
    (others : List String) (h : scanner.matching? rule = some token) :
    (scanner.matchesSequence (rule :: others)).result =
      (scanner.lookAhead others.length).result.map fun seen =>
        if (others.zip seen).all fun (rule, sighting) => sighting.contains rule then some token
        else none := by
  rw [matchesSequence, h]
  cases others with
  | nil =>
    rw [result_lookAhead]
    rfl
  | cons other others => exact result_map _ _

end Scanner

/-- **Asking for rules in a row comes to what single looks come to.** Without a current token of the
first rule the answer is no, and no text is scanned for it. Otherwise the answer fails where one of
the looks at the places of the other rules fails, and in the same way. If none fails then the answer
is the first current token of the first rule where each of the other rules is seen at its place, and
no where one is not. The scanner is left as it is; only at a misplaced match, which is a defect of
its rule, does everything stop. -/
theorem matchesSequence_by_peeks (scanner : Scanner) (rule : String) (others : List String) :
    ((∀ token ∈ scanner.currentTokens, token.rule ≠ rule) →
      scanner.matchesSequence (rule :: others) = .ok none scanner) ∧
    (∀ token, scanner.currentTokens.find? (fun token => token.rule = rule) = some token →
      (∀ place error, 1 ≤ place → place ≤ others.length →
        (scanner.peek place).result = .error error →
          (scanner.matchesSequence (rule :: others)).result = .error error) ∧
      ((∀ place, 1 ≤ place → place ≤ others.length →
          ∃ seen, (scanner.peek place).result = .ok seen) →
        (scanner.PeeksInRow others →
          (scanner.matchesSequence (rule :: others)).result = .ok (some token)) ∧
        (¬ scanner.PeeksInRow others →
          (scanner.matchesSequence (rule :: others)).result = .ok none))) ∧
    ((scanner.matchesSequence (rule :: others)).after = scanner ∨
      ∃ rule', (scanner.matchesSequence (rule :: others)).result =
        .error (.misplacedMatch rule')) := by
  refine ⟨fun hnone => ?_, fun token htoken => ?_, scanner.after_matchesSequence _⟩
  · have hmatching : scanner.matching? rule = none := by
      rw [Scanner.matching?_eq, List.find?_eq_none]
      simpa using hnone
    rw [Scanner.matchesSequence, hmatching]
  · rw [← Scanner.matching?_eq] at htoken
    rw [Scanner.result_matchesSequence scanner others htoken]
    refine ⟨fun place error _ hplace hpeek => ?_, fun hpeeks => ?_⟩
    · rw [Scanner.result_lookAhead_of_peek hpeek hplace]
      rfl
    · cases hlook : (scanner.lookAhead others.length).result with
      | ok seen =>
        rw [Scanner.peeksInRow_iff hlook, Except.map]
        exact ⟨fun hall => by rw [if_pos hall], fun hsome => by rw [if_neg hsome]⟩
      | error error =>
        -- A look at the last place fails as the look at all places does.
        exfalso
        rcases Nat.eq_zero_or_pos others.length with hzero | hpos
        · rw [hzero, Scanner.result_lookAhead] at hlook
          contradiction
        · obtain ⟨seen, hseen⟩ := hpeeks others.length hpos (Nat.le_refl _)
          rw [Scanner.peek, Scanner.result_map, hlook] at hseen
          contradiction

end GrammarLang.Scan

import GrammarLang.Proofs.Scan.Tokenize

/-! # Where a scanner stands

A scanner that is not looking ahead stands at the first token set of some text, which starts right
behind the token set consumed last. **`Scanner.At`** says so of a mode and a text. As the mode and
the text determine the token set (`First.unique`), this is all that matters of a scanner.

* **`Scanner.At.next`** — consuming the token set leads to the text behind it.
* **`Scanner.at_of_advance`**, **`Scanner.advance_of_first`** — an advance comes to stand at a text
  just if the text has a first token set. -/

namespace GrammarLang.Scan

open GrammarLang.Text

/-- A lexeme has at least one character. -/
theorem IsLexeme.front_ne_nil {rules : List Rule} {front rest : List Char}
    (h : IsLexeme rules front rest) : front ≠ [] :=
  List.length_pos_iff.1 h.longest.bounds.1

/-- Text with a lexeme in it is not passed over as a whole. -/
theorem IsLexeme.not_passed {rules : List Rule} {gap gap' front rest : List Char}
    (lexeme : IsLexeme rules front rest) (passed : Passed rules [] gap)
    (passed' : Passed rules (front ++ rest) gap') : gap ≠ gap' ++ (front ++ rest) := by
  intro htext
  obtain rfl := passed.unique passed' (by rw [List.append_nil, htext]) (unpassable_nil rules)
    lexeme.unpassable
  have hnil : front ++ rest = [] := List.append_right_eq_self.1 htext.symm
  exact lexeme.front_ne_nil (List.append_eq_nil_iff.1 hnil).1

/-- The first token set of a text is the only one, and so is the place behind it. -/
theorem First.unique {rules : List Rule} {here stop stop' : Nat × List Char}
    {current current' : Option TokenSet} (h : First rules here current stop)
    (h' : First rules here current' stop') : current = current' ∧ stop = stop' := by
  cases h with
  | @atEnd offset gap passed =>
    generalize hhere : (offset, gap) = here at h'
    cases h' with
    | atEnd =>
      obtain ⟨rfl, rfl⟩ := Prod.mk.inj hhere
      exact ⟨rfl, rfl⟩
    | lexeme passed' lexeme =>
      exact absurd (Prod.mk.inj hhere).2 (lexeme.not_passed passed passed')
  | @lexeme offset gap front rest set passed lexeme read =>
    generalize hhere : (offset, gap ++ (front ++ rest)) = here at h'
    cases h' with
    | atEnd passed' => exact absurd (Prod.mk.inj hhere).2.symm (lexeme.not_passed passed' passed)
    | @lexeme offset' gap' front' rest' set' passed' lexeme' read' =>
      obtain ⟨rfl, htext⟩ := Prod.mk.inj hhere
      obtain rfl := passed.unique passed' htext lexeme.unpassable lexeme'.unpassable
      have htext' : front ++ rest = front' ++ rest' := List.append_cancel_left htext
      have hlongest := lexeme'.longest
      rw [← htext'] at hlongest
      obtain ⟨rfl, rfl⟩ := List.append_inj htext' (lexeme.longest.unique hlongest)
      have htokens := Reads.unique_list read read'
      obtain ⟨first, others⟩ := set
      obtain ⟨first', others'⟩ := set'
      obtain ⟨rfl, rfl⟩ := List.cons.inj htokens
      exact ⟨rfl, rfl⟩

namespace Scanner

/-- The scanner stands at the first token set of a text by the rules of a mode, or at the end where
there is none. The text starts behind the last consumed token and ends with the source. -/
structure At (scanner : Scanner) (mode : String) (text : List Char) : Prop where
  /-- The current token set is the first one, and the text behind it is not scanned yet. -/
  first : First (scanner.table.rulesInMode mode) (scanner.previousEnd, text) scanner.current
    scanner.spot
  /-- The source ends with the text. -/
  suffix : text <:+ scanner.source.chars
  /-- The last consumed token ends where the text starts. -/
  offset_eq : scanner.previousEnd + byteSize text = scanner.source.size

/-- A scanner comes to stand at the text it has not scanned yet. -/
theorem at_of_advance {scanner after : Scanner} (hrules : Anchored scanner.rules)
    (hoffset : scanner.previousEnd = scanner.place.offset) (h : scanner.advance = .ok () after) :
    after.At scanner.mode scanner.place.rest := by
  obtain ⟨hfirst, htable, hsource, -, hprevious, -⟩ := advance_first hrules h
  refine ⟨?_, ?_, ?_⟩
  · rw [htable, hprevious, hoffset]
    exact hfirst
  · rw [hsource]
    exact scanner.place.suffix
  · rw [hprevious, hsource, hoffset, scanner.place.offset_eq]

/-- An advance succeeds where the text has a first token set, or has none up to its end. -/
theorem advance_of_first {scanner : Scanner} {current : Option TokenSet} {stop : Nat × List Char}
    (hrules : Anchored scanner.rules) (h : First scanner.rules scanner.spot current stop) :
    ∃ after, scanner.advance = .ok () after ∧ after.current = current ∧ after.spot = stop := by
  cases hadvance : scanner.advance with
  | ok value after =>
    obtain ⟨hfirst, -⟩ := advance_first hrules hadvance
    obtain ⟨hcurrent, hspot⟩ := hfirst.unique h
    exact ⟨after, rfl, hcurrent, hspot⟩
  | failed error after =>
    -- The gap before the failure is the gap before the token set, where nothing fails.
    obtain ⟨hmunch, hfails⟩ := advance_fails hrules hadvance
    generalize hplace : after.spot = place at hmunch hfails
    generalize hspot : scanner.spot = here at h hmunch
    cases hmunch with
    | @last offset gap rest passed =>
      have hrest := hfails.unpassable
      generalize hhere : (offset, gap ++ rest) = here at h
      cases h with
      | atEnd passed' =>
        obtain rfl := passed.unique passed' (by rw [List.append_nil, (Prod.mk.inj hhere).2])
          hrest (unpassable_nil _)
        have hnil := List.append_right_eq_self.1 (Prod.mk.inj hhere).2
        exact absurd hnil hfails.ne_nil
      | lexeme passed' lexeme read =>
        obtain ⟨rfl, htext⟩ := Prod.mk.inj hhere
        obtain rfl := passed.unique passed' htext hrest lexeme.unpassable
        exact (hfails.not_lexeme (List.append_cancel_left htext) lexeme read).elim

namespace At

variable {scanner : Scanner} {mode : String} {text : List Char}

/-- The current token set ends where the text behind it starts. -/
theorem stop_eq {set : TokenSet} (h : scanner.At mode text) (hcurrent : scanner.current = some set) :
    set.first.span.stop = scanner.place.offset := by
  have hfirst := h.first
  generalize hspot : scanner.spot = spot at hfirst
  rw [hcurrent] at hfirst
  cases hfirst with
  | @lexeme offset gap front rest set passed lexeme read =>
    obtain ⟨token, tokens⟩ := set
    rw [TokenSet.toList_mk, List.forall₂_cons_right_iff] at read
    obtain ⟨rule, rules', ⟨value, -, rfl⟩, -⟩ := read
    exact (Prod.mk.inj hspot).1.symm

/-- Consuming a token set leads to the text behind it. -/
theorem next {set : TokenSet} {after : Scanner} (h : scanner.At mode text)
    (hrules : Anchored scanner.rules) (hcurrent : scanner.current = some set)
    (hnext : scanner.next = .ok () after) :
    after.At scanner.mode scanner.place.rest ∧ after.table = scanner.table ∧
      after.source = scanner.source ∧ after.entered = scanner.entered ∧
      after.previousEnd = scanner.place.offset ∧
      after.recorded = scanner.recorded.map (after.current.toList ++ ·) := by
  rw [next_eq] at hnext
  have hprevious : scanner.behindCurrent.previousEnd = scanner.place.offset := by
    simp only [behindCurrent, hcurrent, Option.map_some, Option.getD_some]
    exact h.stop_eq hcurrent
  have hanchored : Anchored scanner.behindCurrent.rules := hrules
  have hat : after.At scanner.behindCurrent.mode scanner.behindCurrent.place.rest :=
    at_of_advance hanchored hprevious hnext
  obtain ⟨-, htable, hsource, hentered, hprevious', hrecorded⟩ := advance_first hanchored hnext
  exact ⟨hat, htable, hsource, hentered, hprevious'.trans hprevious, hrecorded⟩

/-- A scanner stands at one text only. -/
theorem text_unique {mode' : String} {text' : List Char} (h : scanner.At mode text)
    (h' : scanner.At mode' text') : text = text' := by
  obtain ⟨before, hbefore⟩ := h.suffix
  obtain ⟨before', hbefore'⟩ := h'.suffix
  have hsize : byteSize text = byteSize text' := by
    have := h.offset_eq
    have := h'.offset_eq
    omega
  have hnil : ∀ {middle rest : List Char}, byteSize (middle ++ rest) = byteSize rest → middle = [] := by
    intro middle rest heq
    by_contra hne
    have := byteSize_pos hne
    rw [byteSize_append] at heq
    omega
  rcases List.append_eq_append_iff.1 (hbefore.trans hbefore'.symm) with
    ⟨middle, -, rfl⟩ | ⟨middle, -, rfl⟩
  · rw [hnil hsize, List.nil_append]
  · rw [hnil hsize.symm, List.nil_append]

end At

end Scanner

end GrammarLang.Scan

import GrammarLang.Proofs.Regex.Onward
import GrammarLang.Scan.RuleTable

/-! # The last character of a match

Many expressions end with given characters, such as a closing bracket. If an expression is
**`Expr.closedBy`** some characters, then each of its matches ends with one of them, in whichever way
the match is looked for: **`Expr.before_of_find?`**. Two such expressions without a character in common
never match the same stretch of text. -/

namespace GrammarLang.Regex

variable {text : List Char}

/-! ## Ends -/

/-- Right behind a letter, the letter is the last character. -/
theorem Spot.before_of_pastLetter? {spot stop : Spot text} {c : Char}
    (h : spot.pastLetter? (.char c) = some stop) : stop.before = some c := by
  simp only [pastLetter?, nextChar?] at h
  split at h
  · rename_i d after hnext
    split at hnext
    · contradiction
    · split at hnext
      · simp only [Option.some.injEq, Prod.mk.injEq] at hnext
        obtain ⟨rfl, rfl⟩ := hnext
        split at h
        · rename_i heq
          cases h
          rw [← heq]
          rfl
        · contradiction
      · contradiction
  · contradiction

theorem Spot.past?_append (spot : Spot text) (letters others : List Letter) :
    spot.past? (letters ++ others) = (spot.past? letters).bind (past? · others) := by
  induction letters generalizing spot with
  | nil => rfl
  | cons letter letters ih =>
    rw [List.cons_append, past?_cons, past?_cons]
    cases spot.pastLetter? letter with
    | none => rfl
    | some after => exact ih after

/-- The last character of a front is where the front ends. -/
theorem getElem?_of_getLast? {front rest : List Char} {c : Char} (h : front.getLast? = some c)
    (htext : text = front ++ rest) : text[front.length - 1]? = some c := by
  have hlength : 0 < front.length := List.length_pos_iff.2 (List.getLast?_isSome.1 (by rw [h]; rfl))
  rw [htext, List.getElem?_append_left (by omega), ← List.getLast?_eq_getElem?, h]

/-- The character before a spot stands there in the text. -/
theorem Spot.getElem?_of_before {spot : Spot text} {c : Char} (h : spot.before = some c) :
    text[text.length - spot.left - 1]? = some c := by
  obtain ⟨front, htext, hfront⟩ := spot.split
  have hlength := congrArg List.length htext
  rw [List.length_append, ← spot.left_eq] at hlength
  rw [show text.length - spot.left = front.length by omega]
  exact getElem?_of_getLast? (hfront ▸ h) htext

namespace Expr

/-- Whether each match ends with one of the characters, as far as the last parts of the expression
show. -/
def closedBy (closers : List Char) : Expr → Bool
  | .text letters =>
    match letters.getLast? with
    | some (.char c) => closers.contains c
    | _ => false
  | .group _ body => body.closedBy closers
  | .seq _ second => second.closedBy closers
  | .alt first second => first.closedBy closers && second.closedBy closers
  | .empty | .char _ | .byte _ | .look _ | .repeated .. => false

variable {closers : List Char}

/-- Letters that end with a closing character lead behind one. -/
theorem before_of_past? {letters : List Letter} (h : (Expr.text letters).closedBy closers = true)
    {spot stop : Spot text} (hpast : spot.past? letters = some stop) :
    ∃ c ∈ closers, stop.before = some c := by
  simp only [closedBy] at h
  split at h
  · rename_i c hlast
    obtain ⟨front, rfl⟩ := List.getLast?_eq_some_iff.1 hlast
    rw [Spot.past?_append] at hpast
    obtain ⟨middle, -, hpast⟩ := Option.bind_eq_some_iff.1 hpast
    rw [Spot.past?_cons] at hpast
    obtain ⟨after, hletter, hpast⟩ := Option.bind_eq_some_iff.1 hpast
    cases hpast
    exact ⟨c, by simpa using h, Spot.before_of_pastLetter? hletter⟩
  · contradiction

/-- The ends of an expression are behind a closing character. -/
theorem before_of_mem_ends {expr : Expr} (h : expr.closedBy closers = true) {spot stop : Spot text}
    (hstop : stop ∈ expr.ends spot) : ∃ c ∈ closers, stop.before = some c := by
  induction expr generalizing spot with
  | text letters =>
    rw [ends_text, Option.mem_toList] at hstop
    exact before_of_past? h hstop
  | group number body ih => exact ih h hstop
  | seq first second _ ih =>
    rw [ends_seq, mem_follow] at hstop
    obtain ⟨middle, -, hstop⟩ := hstop
    exact ih h hstop
  | alt first second ih₁ ih₂ =>
    simp only [closedBy, Bool.and_eq_true] at h
    rw [ends_alt, mem_distinct, List.mem_append] at hstop
    exact hstop.elim (ih₁ h.1) (ih₂ h.2)
  | empty => simp [closedBy] at h
  | char => simp [closedBy] at h
  | byte => simp [closedBy] at h
  | look => simp [closedBy] at h
  | repeated => simp [closedBy] at h

end Expr

/-! ## Searches -/

/-- What is found through a part is found behind it. -/
def Search.Carries (property : Spot text → Prop) (part : Through text) : Prop :=
  ∀ fork onward, (∀ spot, Only property (onward spot)) → ∀ spot, Only property (part fork onward spot)

namespace Expr

open Search

variable {property : Spot text → Prop} {closers : List Char}

/-- What is found through an expression is found behind it. -/
theorem search_carries (expr : Expr) : Carries property expr.search :=
  fun fork onward honward spot =>
    search_leads .trivial expr fork onward (fun next _ => honward next) spot .intro

/-- Behind an expression the search goes on from behind a closing character. -/
theorem search_closedBy {expr : Expr} (h : expr.closedBy closers = true)
    {onward : Spot text → Search text}
    (honward : ∀ spot, (∃ c ∈ closers, spot.before = some c) → Only property (onward spot))
    (fork : Nat) (spot : Spot text) : Only property (expr.search fork onward spot) := by
  induction expr generalizing fork onward spot with
  | text letters =>
    simp only [search]
    split
    · exact honward _ (before_of_past? h ‹_›)
    · exact .nothing
  | group number body ih => exact ih h honward fork spot
  | seq first second _ ih => exact first.search_carries fork _ (ih h honward _) spot
  | alt first second ih₁ ih₂ =>
    simp only [closedBy, Bool.and_eq_true] at h
    exact .passing (.orElse (ih₁ h.1 honward _ spot) (ih₂ h.2 honward _ spot))
  | empty => simp [closedBy] at h
  | char => simp [closedBy] at h
  | byte => simp [closedBy] at h
  | look => simp [closedBy] at h
  | repeated => simp [closedBy] at h

/-- What a search among some spots finds is behind a closing character. -/
theorem before_of_searchAmong? {expr : Expr} (h : expr.closedBy closers = true)
    {spots : List (Spot text)} {passed : Passed text} {start stop : Spot text}
    (hfound : expr.searchAmong? passed spots = some (start, stop)) :
    ∃ c ∈ closers, stop.before = some c := by
  induction spots generalizing passed with
  | nil => contradiction
  | cons spot spots ih =>
    have hclosed : Only (fun stop => ∃ c ∈ closers, stop.before = some c)
        (expr.search 0 Search.endsAt spot) :=
      search_closedBy h (fun _ hspot => .endsAt hspot) 0 spot
    have honly := hclosed passed
    rw [searchAmong?] at hfound
    generalize expr.search 0 Search.endsAt spot passed = result at hfound honly
    obtain ⟨_ | found, further⟩ := result
    · exact ih hfound
    · cases hfound
      exact honly _ rfl

/-- A match is behind a closing character, if the expression is closed by one. -/
theorem before_of_find? {expr : Expr} (h : expr.closedBy closers = true) {bytewise : Bool}
    {spot start stop : Spot text} (hfound : expr.find? bytewise spot = some (start, stop)) :
    ∃ c ∈ closers, stop.before = some c := by
  rw [find?] at hfound
  split at hfound
  · split at hfound
    · obtain ⟨found, hfirst, heq⟩ := Option.map_eq_some_iff.1 hfound
      cases heq
      exact before_of_mem_ends h (List.mem_of_head? hfirst)
    · exact before_of_searchAmong? h hfound
  · exact before_of_searchAmong? h hfound

end Expr

end GrammarLang.Regex

import GrammarLang.Proofs.Regex.Rests
import GrammarLang.Regex.Search

/-! # What matching keeps

A match goes through a text from spot to spot, and each of its steps takes a character or a byte.
What holds of a spot and is **`Spot.Kept`** by these steps so holds of all the spots that a match
comes to, in whichever way it is looked for.

* **`Expr.kept_of_mem_ends`** — the ends of an expression.
* **`Expr.search_leads`** — what a search finds, by what the search behind the expression finds.
* **`Expr.kept_of_find?`** — the start and the end of the leftmost match. -/

namespace GrammarLang.Regex

open List (Forall₂)

variable {text : List Char} {visited property : Spot text → Prop}

/-! ## Steps -/

/-- What holds of a spot holds of the next one too. -/
structure Spot.Kept (visited : Spot text → Prop) : Prop where
  /-- Behind a character. -/
  char : ∀ {spot after : Spot text} {c : Char}, visited spot → spot.nextChar? = some (c, after) →
    visited after
  /-- Behind a byte. -/
  byte : ∀ {spot after : Spot text} {octet : UInt8}, visited spot →
    spot.nextByte? = some (octet, after) → visited after

namespace Spot.Kept

variable {spot other : Spot text}

/-- Nothing at all is kept. -/
theorem trivial : Kept fun _ : Spot text => True := ⟨fun _ _ => .intro, fun _ _ => .intro⟩

theorem pastLetter? (h : Kept visited) (hspot : visited spot) {letter : Letter}
    (hpast : spot.pastLetter? letter = some other) : visited other := by
  cases letter with
  | char c =>
    simp only [Spot.pastLetter?] at hpast
    split at hpast
    · split at hpast <;> simp only [Option.some.injEq, reduceCtorEq] at hpast
      exact hpast ▸ h.char hspot ‹_›
    · contradiction
  | byte octet =>
    simp only [Spot.pastLetter?] at hpast
    split at hpast
    · split at hpast <;> simp only [Option.some.injEq, reduceCtorEq] at hpast
      exact hpast ▸ h.byte hspot ‹_›
    · contradiction

theorem past? (h : Kept visited) (hspot : visited spot) {letters : List Letter}
    (hpast : spot.past? letters = some other) : visited other := by
  induction letters generalizing spot with
  | nil => exact Option.some.inj hpast ▸ hspot
  | cons letter letters ih =>
    rw [Spot.past?_cons] at hpast
    obtain ⟨after, hletter, hpast⟩ := Option.bind_eq_some_iff.1 hpast
    exact ih (h.pastLetter? hspot hletter) hpast

/-- All spots to the right are come to by single bytes. -/
theorem mem_all (h : Kept visited) (hspot : visited spot) (hother : other ∈ spot.all) :
    visited other := by
  fun_induction Spot.all spot with
  | case1 spot hend => exact List.mem_singleton.1 hother ▸ hspot
  | case2 spot octet after hnext ih =>
    obtain rfl | hother := List.mem_cons.1 hother
    · exact hspot
    · exact ih (h.byte hspot hnext) hother

/-- The spots to the right between two characters are come to by characters. -/
theorem mem_between (h : Kept visited) (hspot : visited spot) (hother : other ∈ spot.between) :
    visited other := by
  fun_induction Spot.between spot with
  | case1 spot hend => exact List.mem_singleton.1 hother ▸ hspot
  | case2 spot c after hnext ih =>
    obtain rfl | hother := List.mem_cons.1 hother
    · exact hspot
    · exact ih (h.char hspot hnext) hother

/-- A loop that is compared with itself: its places are equal, and of each it holds. -/
theorem paired (visited : Spot text → Prop) :
    Paired (fun spot other => spot = other ∧ visited spot) Spot.remaining Spot.remaining where
  biUnique :=
    ⟨fun _ _ _ h h' => h.1.trans h'.1.symm, fun _ _ _ h h' => h.1.symm.trans h'.1⟩
  size_lt := by
    rintro place next _ _ ⟨rfl, -⟩ ⟨rfl, -⟩
    exact Iff.rfl

end Spot.Kept

/-! ## Ends -/

namespace Expr

open Spot (Kept)

/-- The ends of a match are kept, if its start is. -/
theorem kept_of_mem_ends (h : Kept visited) {expr : Expr} {spot stop : Spot text}
    (hspot : visited spot) (hstop : stop ∈ expr.ends spot) : visited stop := by
  induction expr generalizing spot stop with
  | empty => exact List.mem_singleton.1 hstop ▸ hspot
  | text letters =>
    rw [ends_text, Option.mem_toList] at hstop
    exact h.past? hspot hstop
  | char set =>
    simp only [ends] at hstop
    split at hstop
    · split at hstop
      · exact List.mem_singleton.1 hstop ▸ h.char hspot ‹_›
      · contradiction
    · contradiction
  | byte set =>
    simp only [ends] at hstop
    split at hstop
    · split at hstop
      · exact List.mem_singleton.1 hstop ▸ h.byte hspot ‹_›
      · contradiction
    · contradiction
  | look condition =>
    rw [ends_look] at hstop
    split at hstop
    · exact List.mem_singleton.1 hstop ▸ hspot
    · contradiction
  | group number body ih => exact ih hspot hstop
  | seq first second ih₁ ih₂ =>
    rw [ends_seq, mem_follow] at hstop
    obtain ⟨middle, hmiddle, hstop⟩ := hstop
    exact ih₂ (ih₁ hspot hmiddle) hstop
  | alt first second ih₁ ih₂ =>
    rw [ends_alt, mem_distinct, List.mem_append] at hstop
    exact hstop.elim (ih₁ hspot) (ih₂ hspot)
  | repeated body least most greedy ih =>
    -- The loop is put beside itself, which says of each of its places what holds of the first.
    have hround (place place' : Spot text) (hplace : place = place' ∧ visited place) :
        Forall₂ (fun spot other => spot = other ∧ visited spot) (body.ends place)
          (body.ends place') := by
      obtain ⟨rfl, hplace⟩ := hplace
      exact List.forall₂_same.2 fun next hnext => ⟨rfl, ih hplace hnext⟩
    have hends : Forall₂ (fun spot other => spot = other ∧ visited spot)
        ((Expr.repeated body least most greedy).ends spot)
        ((Expr.repeated body least most greedy).ends spot) := by
      simp only [ends]
      split
      · exact (Kept.paired visited).strides
          (fun place place' hplace => head?_rel (hround place place' hplace)) ⟨rfl, hspot⟩
      · exact (Kept.paired visited).rounds hround ⟨rfl, hspot⟩
    exact (List.forall₂_same.1 hends stop hstop).2

end Expr

/-! ## Searches -/

/-- All that a search finds has a property. -/
def Search.Only (property : Spot text → Prop) (search : Search text) : Prop :=
  ∀ passed stop, (search passed).1 = some stop → property stop

namespace Search.Only

variable {first second : Search text}

theorem nothing : Only property (Search.nothing : Search text) := fun _ _ hfound => by contradiction

theorem endsAt {spot : Spot text} (h : property spot) : Only property (Search.endsAt spot) :=
  fun _ _ hfound => Option.some.inj hfound ▸ h

theorem orElse (h : Only property first) (h' : Only property second) :
    Only property (first.orElse second) := by
  intro passed stop hfound
  have hfirst := h passed
  rw [Search.orElse] at hfound
  generalize first passed = result at hfound hfirst
  obtain ⟨_ | found, further⟩ := result
  · exact h' further stop hfound
  · exact hfirst stop hfound

theorem passing {fork : Nat} {spot : Spot text} (h : Only property first) :
    Only property (Search.passing fork spot first) := by
  intro passed stop hfound
  rw [Search.passing] at hfound
  split at hfound
  · contradiction
  · exact h _ stop hfound

theorem furtherOrStop {greedy : Bool} (h : Only property first) (h' : Only property second) :
    Only property (Search.furtherOrStop greedy first second) := by
  cases greedy with
  | true => exact h.orElse h'
  | false => exact h'.orElse h

end Search.Only

/-- From spots that are visited a part leads to such spots, and what is found behind them is what is
found at all. -/
def Search.Leads (visited property : Spot text → Prop) (part : Through text) : Prop :=
  ∀ fork onward, (∀ spot, visited spot → Only property (onward spot)) →
    ∀ spot, visited spot → Only property (part fork onward spot)

namespace Search.Leads

variable {part : Through text}

theorem times (h : Leads visited property part) (width count : Nat) :
    Leads visited property (Search.times part width count) := by
  induction count with
  | zero => exact fun _ _ honward => honward
  | succ count ih => exact fun fork _ honward => h fork _ (ih _ _ honward)

theorem timesAtMost (h : Leads visited property part) (width : Nat) (greedy : Bool) (count : Nat) :
    Leads visited property (Search.timesAtMost part width greedy count) := by
  induction count with
  | zero => exact fun _ _ honward => honward
  | succ count ih =>
    exact fun fork _ honward spot hspot =>
      .passing (.furtherOrStop (h _ _ (ih _ _ honward) spot hspot) (honward spot hspot))

theorem timesWithoutEnd (h : Leads visited property part) (inner fork : Nat) (greedy : Bool)
    {onward : Spot text → Search text} (honward : ∀ spot, visited spot → Only property (onward spot))
    (spot : Spot text) (hspot : visited spot) :
    Only property (Search.timesWithoutEnd (part inner) fork greedy onward spot) := by
  induction hsize : spot.remaining using Nat.strongRecOn generalizing spot with
  | _ _ ih =>
    subst hsize
    rw [Search.timesWithoutEnd]
    refine .passing (.furtherOrStop (h _ _ (fun next hnext => ?_) spot hspot) (honward spot hspot))
    split
    · exact ih _ ‹_› next hnext rfl
    · exact .nothing

end Search.Leads

namespace Expr

open Search
open Spot (Kept)

/-- What is found through an expression is found behind it, at a spot that is kept. -/
theorem search_leads (h : Kept visited) (expr : Expr) : Leads visited property expr.search := by
  induction expr with
  | empty => exact fun _ _ honward => honward
  | text letters =>
    intro fork onward honward spot hspot
    simp only [search]
    split
    · exact honward _ (h.past? hspot ‹_›)
    · exact .nothing
  | char set =>
    intro fork onward honward spot hspot
    simp only [search]
    split
    · split
      · exact honward _ (h.char hspot ‹_›)
      · exact .nothing
    · exact .nothing
  | byte set =>
    intro fork onward honward spot hspot
    simp only [search]
    split
    · split
      · exact honward _ (h.byte hspot ‹_›)
      · exact .nothing
    · exact .nothing
  | look condition =>
    intro fork onward honward spot hspot
    simp only [search]
    split
    · exact honward _ hspot
    · exact .nothing
  | group number body ih => exact ih
  | seq first second ih₁ ih₂ => exact fun fork _ honward => ih₁ fork _ (ih₂ _ _ honward)
  | alt first second ih₁ ih₂ =>
    exact fun fork _ honward spot hspot =>
      .passing (.orElse (ih₁ _ _ honward spot hspot) (ih₂ _ _ honward spot hspot))
  | repeated body least most greedy ih =>
    intro fork onward honward spot hspot
    cases most with
    | some most => exact ih.times _ _ _ _ (ih.timesAtMost _ _ _ _ _ honward) spot hspot
    | none =>
      have hagain := ih.timesWithoutEnd (fork + 2) fork greedy honward
      cases least with
      | zero =>
        simp only [search]
        split
        · exact .passing (.furtherOrStop (ih _ _ hagain spot hspot) (honward spot hspot))
        · exact hagain spot hspot
      | succ least => exact ih.times _ _ _ _ (ih _ _ hagain) spot hspot

/-- What is found among some spots starts at one of them and ends at one that is kept. -/
theorem kept_of_searchAmong? (h : Kept visited) {expr : Expr} {spots : List (Spot text)}
    (hspots : ∀ spot ∈ spots, visited spot) {passed : Passed text} {start stop : Spot text}
    (hfound : expr.searchAmong? passed spots = some (start, stop)) :
    visited start ∧ visited stop := by
  induction spots generalizing passed with
  | nil => contradiction
  | cons spot spots ih =>
    have hspot : visited spot := hspots spot List.mem_cons_self
    have honly : Only visited (expr.search 0 Search.endsAt spot) :=
      search_leads h expr 0 _ (fun _ hend => .endsAt hend) spot hspot
    have hstop := honly passed
    rw [searchAmong?] at hfound
    generalize expr.search 0 Search.endsAt spot passed = result at hfound hstop
    obtain ⟨_ | found, further⟩ := result
    · exact ih (fun other hother => hspots other (List.mem_cons_of_mem _ hother)) hfound
    · cases hfound
      exact ⟨hspot, hstop _ rfl⟩

/-- **The start and the end of a match are kept**, if the spot is from which it is looked for. -/
theorem kept_of_find? (h : Kept visited) {expr : Expr} {bytewise : Bool} {spot start stop : Spot text}
    (hspot : visited spot) (hfound : expr.find? bytewise spot = some (start, stop)) :
    visited start ∧ visited stop := by
  rw [find?] at hfound
  split at hfound
  · split at hfound
    · obtain ⟨found, hfirst, heq⟩ := Option.map_eq_some_iff.1 hfound
      cases heq
      exact ⟨hspot, kept_of_mem_ends h hspot (List.mem_of_head? hfirst)⟩
    · refine kept_of_searchAmong? h (fun other hother => ?_) hfound
      exact List.mem_singleton.1 hother ▸ hspot
  · refine kept_of_searchAmong? h (fun other hother => ?_) hfound
    cases bytewise with
    | true => exact h.mem_all hspot hother
    | false => exact h.mem_between hspot hother

end Expr

end GrammarLang.Regex

import GrammarLang.Regex.Found

/-! # The ends of a loop, in order of preference

A loop is given by the places that one more round leads to from each place, most preferred first.
A greedy loop would rather end after a further round, any other would rather end at once. The
functions here list the places that a loop can end at, most preferred first, each once, by its most
preferred way.

* **`strides`** — a loop whose rounds lead to one place at most: its places lie in a row.
* **`rounds`** — any loop. Of a loop without a last round, rounds that lead no further are left out,
  so it comes to an end. -/

namespace GrammarLang.Regex

section Strides

variable {Place : Type}

/-- The places that a loop passes from `place` on, where each round leads to one place at most, and
there are at most `most` rounds. `size` measures what is left to explore at a place. -/
def stridesFrom (size : Place → Nat) (step : Place → Option Place) (most : Option Nat)
    (place : Place) : List Place :=
  if most = some 0 then [place]
  else
    match step place with
    | none => [place]
    | some next =>
      if size next < size place then
        place :: stridesFrom size step (most.map (· - 1)) next
      else [place]
termination_by size place

/-- The places after at least `least` and at most `most` rounds, most preferred first, where each
round leads to one place at most. -/
def strides (size : Place → Nat) (step : Place → Option Place) (least : Nat) (most : Option Nat)
    (greedy : Bool) (place : Place) : List Place :=
  let places := (stridesFrom size step most place).drop least
  if greedy then places.reverse else places

end Strides

variable {Place : Type} [DecidableEq Place] [Hashable Place]

/-- Goes on from each of some places in turn, and keeps of equal results the first. -/
def follow (places : List Place) (next : Place → List Place) : List Place :=
  match places with
  | [] => []
  | [place] => next place
  | places => distinct (places.flatMap next)

@[simp] theorem follow_nil (next : Place → List Place) : follow [] next = [] := rfl

@[simp] theorem follow_singleton (place : Place) (next : Place → List Place) :
    follow [place] next = next place := rfl

/-- Following leads to the results of the single places, and to nothing else. -/
@[simp] theorem mem_follow {places : List Place} {next : Place → List Place} {result : Place} :
    result ∈ follow places next ↔ ∃ place ∈ places, result ∈ next place := by
  match places with
  | [] => simp
  | [place] => simp
  | place :: other :: others => simp [follow]

/-- Adds the choice of staying at `place` to the places `further` on: a greedy loop prefers it last,
any other first. -/
def orStay (greedy : Bool) (place : Place) (further : List Place) : List Place :=
  distinct (if greedy then further ++ [place] else place :: further)

/-- Staying is a choice beside going further, whatever the preference. -/
@[simp] theorem mem_orStay {greedy : Bool} {place result : Place} {further : List Place} :
    result ∈ orStay greedy place further ↔ result = place ∨ result ∈ further := by
  cases greedy <;> simp [orStay, or_comm]

/-- Adds the places a loop can end at, starting at `place`, to those found so far. `size` measures
what is left to explore at a place. -/
def explore (size : Place → Nat) (round : Place → List Place) (greedy : Bool)
    (found : Found Place) (place : Place) : Found Place :=
  if found.contains place then found
  else
    let further := (round place).filter fun next => size next < size place
    if greedy then
      (further.attach.foldl (fun found next => explore size round greedy found next.1) found).add
        place
    else
      further.attach.foldl (fun found next => explore size round greedy found next.1)
        (found.add place)
termination_by size place
decreasing_by
  all_goals
    have h := (List.mem_filter.1 next.2).2
    exact of_decide_eq_true h

/-- The places that a loop can end at after any number of rounds, most preferred first. -/
def anyRounds (size : Place → Nat) (round : Place → List Place) (greedy : Bool) (place : Place) :
    List Place :=
  (explore size round greedy .empty place).toList

/-- The places after exactly `n` rounds, most preferred first. -/
def exactRounds (round : Place → List Place) : (n : Nat) → Place → List Place
  | 0, place => [place]
  | n + 1, place => follow (round place) (exactRounds round n)

/-- The places after at most `n` rounds, most preferred first. -/
def atMostRounds (round : Place → List Place) (greedy : Bool) : (n : Nat) → Place → List Place
  | 0, place => [place]
  | n + 1, place => orStay greedy place (follow (round place) (atMostRounds round greedy n))

/-- The places after at least `least` and at most `most` rounds, most preferred first. -/
def rounds (size : Place → Nat) (round : Place → List Place) (least : Nat) (most : Option Nat)
    (greedy : Bool) (place : Place) : List Place :=
  follow (exactRounds round least place) <|
    match most with
    | some most => atMostRounds round greedy (most - least)
    | none => anyRounds size round greedy

end GrammarLang.Regex

import GrammarLang.Regex.Match

/-! # Searching for a match

**`Expr.search`** looks for the most preferred match of an expression without listing all of them.
It tries one way after another and remembers the *forks* it has passed: an alternative or the next
round of a loop, each with the spot where it was passed. A fork is not passed twice at one spot: the
ways behind it have failed already, or are being tried just now, so that taking them again leads
nowhere. A search so ends after as many steps as there are forks and spots, whatever the expression.

That rule also says how a loop behaves whose rounds may take no text: such a round comes back to the
fork of its loop, and is given up there.

**`Expr.find?`** is the leftmost match in a text. Where only one spot is tried, an expression with
few ways to match is left to `Expr.ends`. -/

namespace GrammarLang.Regex

open GrammarLang

variable {text : List Char}

/-- The forks that were passed, by number, each with the spot where. -/
abbrev Passed (text : List Char) := Std.HashSet (Nat × Spot text)

/-- A search finds where a match ends, if there is one, and adds the forks that it passes. -/
abbrev Search (text : List Char) := Passed text → Option (Spot text) × Passed text

namespace Search

/-- Finds nothing. -/
def nothing : Search text := fun passed => (none, passed)

/-- Finds that the match ends at a spot. -/
def endsAt (spot : Spot text) : Search text := fun passed => (some spot, passed)

/-- The first search, or the second one if the first finds nothing. -/
def orElse (first second : Search text) : Search text := fun passed =>
  match first passed with
  | (some stop, passed) => (some stop, passed)
  | (none, passed) => second passed

/-- Passes a fork at a spot, unless it was passed there before. -/
def passing (fork : Nat) (spot : Spot text) (onward : Search text) : Search text := fun passed =>
  if passed.contains (fork, spot) then (none, passed) else onward (passed.insert (fork, spot))

/-- A choice between going further and stopping. What is greedy would rather go further. -/
def furtherOrStop (greedy : Bool) (further stop : Search text) : Search text :=
  if greedy then further.orElse stop else stop.orElse further

/-- Searches through a part of an expression from a spot on. It takes the number of the first fork
inside the part, and how the search goes on behind the part. -/
abbrev Through (text : List Char) :=
  (fork : Nat) → (onward : Spot text → Search text) → Spot text → Search text

/-- Goes through a part `n` times. Each time has `width` forks of its own. -/
def times (part : Through text) (width : Nat) : (n : Nat) → Through text
  | 0, _, onward, spot => onward spot
  | n + 1, fork, onward, spot =>
    part fork (times part width n (fork + width) onward) spot

/-- Goes through a part at most `n` times. Each time has `width` forks of its own, and the fork in
front of it. -/
def timesAtMost (part : Through text) (width : Nat) (greedy : Bool) : (n : Nat) → Through text
  | 0, _, onward, spot => onward spot
  | n + 1, fork, onward, spot =>
    passing fork spot <| furtherOrStop greedy
      (part (fork + 1) (timesAtMost part width greedy n (fork + 1 + width) onward) spot)
      (onward spot)

/-- Goes through a part any number of times. All times share their forks. -/
def timesWithoutEnd (part : (Spot text → Search text) → Spot text → Search text) (fork : Nat)
    (greedy : Bool) (onward : Spot text → Search text) (spot : Spot text) : Search text :=
  passing fork spot <| furtherOrStop greedy
    (part (fun next =>
      if next.remaining < spot.remaining then
        timesWithoutEnd part fork greedy onward next
      else nothing) spot)
    (onward spot)
termination_by spot.remaining

end Search

namespace Expr

open Search

/-- How many forks an expression has. -/
def forks : Expr → Nat
  | .empty => 0
  | .text _ => 0
  | .char _ => 0
  | .byte _ => 0
  | .look _ => 0
  | .group _ body => body.forks
  | .seq first second => first.forks + second.forks
  | .alt first second => first.forks + second.forks + 1
  | .repeated body least most _ =>
    match most with
    | some most => least * body.forks + (most - least) * (body.forks + 1)
    | none => least * body.forks + body.forks + 2

/-- Searches through an expression from a spot on. A loop without a last round has a fork behind
each round. There is one in front of the first round too, if that may be left out: the same one, or
one of its own where a round may take no text. -/
def search : Expr → Through text
  | .empty, _, onward, spot => onward spot
  | .text letters, _, onward, spot =>
    match spot.past? letters with
    | some after => onward after
    | none => nothing
  | .char set, _, onward, spot =>
    match spot.nextChar? with
    | some (c, after) => if set.contains c.toNat then onward after else nothing
    | none => nothing
  | .byte set, _, onward, spot =>
    match spot.nextByte? with
    | some (octet, after) => if set.contains octet.toNat then onward after else nothing
    | none => nothing
  | .look condition, _, onward, spot => if condition.holds spot then onward spot else nothing
  | .group _ body, fork, onward, spot => body.search fork onward spot
  | .seq first second, fork, onward, spot =>
    first.search fork (second.search (fork + first.forks) onward) spot
  | .alt first second, fork, onward, spot =>
    passing fork spot <| orElse
      (first.search (fork + 1) onward spot)
      (second.search (fork + 1 + first.forks) onward spot)
  | .repeated body least most greedy, fork, onward, spot =>
    match most with
    | some most =>
      times body.search body.forks least fork
        (timesAtMost body.search body.forks greedy (most - least) (fork + least * body.forks)
          onward)
        spot
    | none =>
      let again := timesWithoutEnd (body.search (fork + 2)) fork greedy onward
      match least with
      | 0 =>
        if body.nullable then
          passing (fork + 1) spot <|
            furtherOrStop greedy (body.search (fork + 2) again spot) (onward spot)
        else again spot
      | least + 1 =>
        times body.search body.forks least (fork + 2 + body.forks)
          (body.search (fork + 2) again) spot

/-- The leftmost match that starts at one of some spots: where it starts and where it ends. A fork
that led nowhere from an earlier spot leads nowhere from a later one. -/
def searchAmong? (expr : Expr) (passed : Passed text) :
    List (Spot text) → Option (Spot text × Spot text)
  | [] => none
  | spot :: spots =>
    match expr.search 0 endsAt spot passed with
    | (some stop, _) => some (spot, stop)
    | (none, passed) => expr.searchAmong? passed spots

/-- The leftmost match from a spot on: where it starts and where it ends. Unless `bytewise` is set,
a match starts between two characters. An anchored expression is tried at the first spot only, as it
matches nowhere behind it. -/
def find? (expr : Expr) (bytewise : Bool) (start : Spot text) : Option (Spot text × Spot text) :=
  if expr.anchored then
    if expr.isPlain then (expr.firstEnd? start).map fun stop => (start, stop)
    else expr.searchAmong? ∅ [start]
  else expr.searchAmong? ∅ (if bytewise then start.all else start.between)

end Expr

end GrammarLang.Regex

import GrammarLang.Proofs.Regex.Onward
import GrammarLang.Proofs.Scan.Munch
import GrammarLang.Proofs.Text.Boundaries

/-! # Matches in whole characters

A regular expression that works on bytes may match up to the middle of a character. What a rule makes
of such a match is told here in bytes, step by step: the end of the match is cut back until it lies
between two characters, and of the lengths of all rules the greatest is kept.

* **`Spot.IsPlaced`** — a spot reaches into a character, but not beyond it. All spots that a match
  comes to do.
* **`Rule.byteMatch`** — what a rule makes of a text, in bytes; **`byteMatch_eq`** — it is what the
  rule makes of it in characters.
* **`chooseByBytes`** — the rules with the longest match, in bytes; **`chooseByBytes_eq`** — they are
  those with the longest match in characters.
* **`match_in_whole_characters`** — all of this, at every place of a source. -/

namespace GrammarLang.Regex.Spot

open GrammarLang.Text (byteSize)

variable {text : List Char} {spot : Spot text}

/-! ## Spots -/

/-- A spot lies between two characters, or inside of the next one. -/
def IsPlaced (spot : Spot text) : Prop :=
  spot.inner = 0 ∨ ∃ c ∈ spot.rest.head?, spot.inner < c.utf8Size

/-- No step leads beyond a character that it is inside of. -/
theorem kept_isPlaced : Kept (IsPlaced : Spot text → Prop) where
  char := by
    intro spot after c _ hnext
    simp only [nextChar?] at hnext
    split at hnext
    · contradiction
    · split at hnext
      · cases hnext
        exact .inl rfl
      · contradiction
  byte := by
    intro spot after octet _ hnext
    simp only [nextByte?] at hnext
    split at hnext
    · contradiction
    · rename_i c cs hrest
      split at hnext
      · contradiction
      · split at hnext
        · rename_i hlt
          cases hnext
          rw [String.length_utf8EncodeChar] at hlt
          exact .inr ⟨c, by rw [hrest]; rfl, hlt⟩
        · cases hnext
          exact .inl rfl

/-- The bytes behind a spot are those of the characters behind it, and some of the next one. -/
theorem IsPlaced.divides (h : spot.IsPlaced) :
    ∃ front, Text.Divides text spot.offset front spot.rest spot.inner := by
  obtain ⟨front, htext, -⟩ := spot.split
  refine ⟨front, htext, ?_, h⟩
  have hsize : byteSize text = byteSize front + byteSize spot.rest := by
    rw [← Text.byteSize_append, ← htext]
  rw [offset, hsize, Nat.add_sub_cancel]

/-- Nothing is behind the start of a text only. -/
theorem eq_start_of_offset (h : spot.offset = 0) : spot = .start text := by
  obtain ⟨front, htext, -⟩ := spot.split
  have hsize : byteSize text = byteSize front + byteSize spot.rest := by
    rw [← Text.byteSize_append, ← htext]
  rw [offset, hsize, Nat.add_sub_cancel, Nat.add_eq_zero_iff] at h
  have hfront : front = [] := by
    by_contra hne
    have hpos := Text.byteSize_pos hne
    omega
  rw [hfront, List.nil_append] at htext
  refine eq_of_left_eq ?_ h.2
  rw [spot.left_eq, ← htext]
  rfl

@[simp] theorem offset_start (text : List Char) : (start text).offset = 0 := by
  simp [offset]

end GrammarLang.Regex.Spot

namespace GrammarLang.Scan

open GrammarLang.Regex (Spot)
open GrammarLang.Text

variable {text : List Char} {rule : Rule}

/-! ## One rule -/

/-- What a rule makes of a text, in bytes. -/
inductive ByteMatch
  /-- It does not match at the start, or matches no whole character there. -/
  | none
  /-- It matches some bytes at the start. -/
  | bytes (count : Nat)
  /-- It matches, but not at the start. -/
  | misplaced
  /-- No whole characters are found, however far the match is cut back. -/
  | underflow
  deriving DecidableEq, Repr

/-- What a rule makes of a text, in bytes: the end of its match is cut back to a character. -/
def Rule.byteMatch (rule : Rule) (text : List Char) : ByteMatch :=
  match rule.regex.find? (.start text) with
  | none => .none
  | some (start, stop) =>
    if start.offset = 0 then
      match cutBack? (bytesOf text) stop.offset with
      | none => .underflow
      | some 0 => .none
      | some (count + 1) => .bytes (count + 1)
    else .misplaced

/-- A match in characters as a match in bytes. -/
def MatchAt.inBytes (text : List Char) : MatchAt → ByteMatch
  | .none => .none
  | .chars count => .bytes (byteSize (text.take count))
  | .misplaced => .misplaced

/-- A match that starts with the text ends inside of it, and takes so many whole characters. -/
theorem exists_front_of_find? {start stop : Spot text}
    (h : rule.regex.find? (.start text) = some (start, stop)) :
    ∃ front, Divides text stop.offset front stop.rest stop.inner := by
  have hplaced := Regex.Expr.kept_of_find? Spot.kept_isPlaced (.inl rfl) h
  exact hplaced.2.divides

/-- **What a rule makes of a text is the same in bytes and in characters.** -/
theorem byteMatch_eq (rule : Rule) (text : List Char) :
    rule.byteMatch text = (rule.matchAt (.start text)).inBytes text := by
  rw [Rule.byteMatch, Rule.matchAt]
  cases hfind : rule.regex.find? (.start text) with
  | none => rfl
  | some found =>
    obtain ⟨start, stop⟩ := found
    simp only
    by_cases hstart : start = .start text
    · subst hstart
      obtain ⟨front, hdivides⟩ := exists_front_of_find? hfind
      -- The characters that are left tell how many there are in front.
      have hcount : (Spot.start text).left - stop.left = front.length := by
        have hlength := congrArg List.length hdivides.chars_eq
        rw [List.length_append] at hlength
        rw [Spot.left_eq, stop.left_eq, Spot.rest_start]
        omega
      have htake : text.take front.length = front := by
        rw [hdivides.chars_eq]
        exact List.take_left
      rw [if_pos (Spot.offset_start text), if_pos rfl, hdivides.cutBack_eq, hcount]
      cases front with
      | nil => rfl
      | cons c front =>
        have hpos := byteSize_pos (List.cons_ne_nil c front)
        obtain ⟨count, hsize⟩ := Nat.exists_eq_add_one.2 hpos
        rw [hsize, if_neg (by simp), MatchAt.inBytes, htake, hsize]
    · rw [if_neg (mt Spot.eq_start_of_offset hstart), if_neg hstart]
      rfl

/-- A match is never cut back below zero. -/
theorem byteMatch_ne_underflow (rule : Rule) (text : List Char) :
    rule.byteMatch text ≠ .underflow := by
  rw [byteMatch_eq]
  cases rule.matchAt (.start text) <;> simp [MatchAt.inBytes]

/-- A match that starts with the text is cut back to the last place between two characters, and
counts unless nothing is left of it. -/
theorem byteMatch_of_find? {start stop : Spot text}
    (h : rule.regex.find? (.start text) = some (start, stop)) (hstart : start.offset = 0) :
    stop.offset ≤ byteSize text ∧
      ∃ length, cutBack? (bytesOf text) stop.offset = some length ∧
        IsGreatest {place | IsCharBoundary text place ∧ place ≤ stop.offset} length ∧
        rule.byteMatch text = if length = 0 then .none else .bytes length := by
  obtain ⟨front, hdivides⟩ := exists_front_of_find? h
  refine ⟨hdivides.le_size, byteSize front, hdivides.cutBack_eq, hdivides.isGreatest, ?_⟩
  rw [Rule.byteMatch, h]
  simp only [hstart, if_true, hdivides.cutBack_eq]
  cases byteSize front with
  | zero => rfl
  | succ count => rfl

/-! ## Several rules -/

/-- The rules with the longest match, where `most` is the number of bytes of the longest one so far,
and `chosen` are the rules that attain it. A rule whose match is misplaced, or is not to be cut back,
is given back instead. -/
def chooseByBytes (text : List Char) : List Rule → (most : Nat) → (chosen : List Rule) →
    Except Rule (Nat × List Rule)
  | [], most, chosen => .ok (most, chosen)
  | rule :: rules, most, chosen =>
    match rule.byteMatch text with
    | .none => chooseByBytes text rules most chosen
    | .bytes count =>
      if most < count then chooseByBytes text rules count [rule]
      else if count = most then chooseByBytes text rules most (chosen ++ [rule])
      else chooseByBytes text rules most chosen
    | .misplaced => .error rule
    | .underflow => .error rule

/-- How many bytes the best of some matches has. -/
def Matches.bestBytes (text : List Char) (found : Matches) : Nat := byteSize (text.take found.best)

/-- More characters of a text are more bytes. -/
theorem byteSize_take_lt_iff {count other : Nat} (hcount : count ≤ text.length)
    (hother : other ≤ text.length) :
    byteSize (text.take count) < byteSize (text.take other) ↔ count < other := by
  have hless {few many : Nat} (hmany : many ≤ text.length) (hlt : few < many) :
      byteSize (text.take few) < byteSize (text.take many) := by
    have hsplit : text.take many = text.take few ++ (text.take many).drop few := by
      rw [← List.take_append_drop few (text.take many), List.take_take, Nat.min_eq_left hlt.le,
        List.drop_append_of_le_length (by rw [List.length_take]; omega), List.drop_take_self]
      simp
    have hne : (text.take many).drop few ≠ [] := by
      rw [← List.length_pos_iff, List.length_drop, List.length_take]
      omega
    have hpos := byteSize_pos hne
    rw [hsplit, byteSize_append]
    omega
  constructor
  · intro hlt
    by_contra hge
    obtain hgt | heq := Nat.lt_or_eq_of_le (Nat.not_lt.1 hge)
    · exact Nat.lt_asymm hlt (hless hcount hgt)
    · rw [heq] at hlt
      exact Nat.lt_irrefl _ hlt
  · exact hless hother

/-- One more match makes the best one longer, or leaves it as it is. -/
theorem Matches.best_concat (found : Matches) (entry : Rule × Nat) :
    Matches.best (found ++ [entry]) = max found.best entry.2 := by
  induction found with
  | nil => exact Nat.max_comm _ _
  | cons first others ih => rw [List.cons_append, best_cons, best_cons, ih, Nat.max_assoc]

/-- One more match wins alone if it is the longest one, and besides the others if it is as long. -/
theorem Matches.winners_concat (found : Matches) (rule : Rule) (count : Nat) :
    Matches.winners (found ++ [(rule, count)]) =
      if found.best < count then [rule]
      else if count = found.best then found.winners ++ [rule]
      else found.winners := by
  rw [winners, best_concat, List.filter_append, List.map_append]
  split
  · rename_i hlt
    have hnone : found.filter (fun entry => entry.2 = max found.best count) = [] := by
      rw [List.filter_eq_nil_iff]
      intro entry hentry
      have hle := le_best hentry
      simp only [decide_eq_true_eq]
      omega
    rw [hnone]
    simp [Nat.le_of_lt hlt]
  · rename_i hge
    rw [Nat.max_eq_left (Nat.not_lt.1 hge)]
    split
    · rename_i heq
      simp [winners, heq]
    · rename_i hne
      simp [winners, hne]

/-- The loop keeps the best of the matches seen so far. -/
theorem chooseByBytes_seen (rules : List Rule) (seen : Matches)
    (hseen : ∀ entry ∈ seen, entry.2 ≤ text.length) :
    chooseByBytes text rules (seen.bestBytes text) seen.winners =
      (matchesAt (.start text) rules).map fun found =>
        (Matches.bestBytes text (seen ++ found), Matches.winners (seen ++ found)) := by
  induction rules generalizing seen with
  | nil => simp [chooseByBytes, matchesAt, Except.map]
  | cons rule rules ih =>
    rw [chooseByBytes, byteMatch_eq, matchesAt]
    cases hat : rule.matchAt (.start text) with
    | none => exact ih seen hseen
    | misplaced => rfl
    | chars count =>
      have hcount : count ≤ text.length :=
        (Rule.matchLength?_bounds (Rule.matchLength?_eq_some_iff.2 hat)).2
      have hbest : seen.best ≤ text.length := by
        obtain hzero | ⟨entry, hentry, heq⟩ := Matches.best_attained seen
        · rw [hzero]
          exact Nat.zero_le _
        · exact heq ▸ hseen entry hentry
      have hmore : ∀ entry ∈ seen ++ [(rule, count)], entry.2 ≤ text.length := by
        intro entry hentry
        obtain hentry | hentry := List.mem_append.1 hentry
        · exact hseen entry hentry
        · exact List.mem_singleton.1 hentry ▸ hcount
      have hlt := byteSize_take_lt_iff hbest hcount
      have hgt := byteSize_take_lt_iff hcount hbest
      have hmap : ((matchesAt (.start text) rules).map ((rule, count) :: ·)).map (fun found =>
          (Matches.bestBytes text (seen ++ found), Matches.winners (seen ++ found))) =
          chooseByBytes text rules (Matches.bestBytes text (seen ++ [(rule, count)]))
            (Matches.winners (seen ++ [(rule, count)])) := by
        rw [ih (seen ++ [(rule, count)]) hmore]
        cases matchesAt (.start text) rules <;> simp [Except.map]
      -- The lengths compare in bytes as they do in characters.
      rw [hmap, Matches.winners_concat, Matches.bestBytes, Matches.bestBytes, Matches.best_concat]
      simp only [MatchAt.inBytes]
      obtain hless | rfl | hgreater := Nat.lt_trichotomy seen.best count
      · rw [if_pos (hlt.2 hless), if_pos hless, Nat.max_eq_right hless.le]
      · rw [if_neg (Nat.lt_irrefl _), if_pos rfl, if_neg (Nat.lt_irrefl _), if_pos rfl, Nat.max_self]
      · have hfewer := hgt.2 hgreater
        rw [if_neg (Nat.lt_asymm hfewer), if_neg (Nat.ne_of_lt hfewer),
          if_neg (Nat.lt_asymm hgreater), if_neg (Nat.ne_of_lt hgreater),
          Nat.max_eq_left hgreater.le]

/-- **The longest match is the same in bytes and in characters.** -/
theorem chooseByBytes_eq (rules : List Rule) (text : List Char) :
    chooseByBytes text rules 0 [] =
      (longest rules (.start text)).map fun found => (byteSize (text.take found.1), found.2) := by
  have hseen : chooseByBytes text rules 0 [] = _ :=
    @chooseByBytes_seen text rules [] (by simp)
  rw [hseen, longest]
  cases matchesAt (.start text) rules <;> rfl

/-! ## Places -/

/-- So many bytes further is a place in the text again, if the bytes are those of a match. -/
theorem place_of_byteMatch {source : Source} {here : Cursor source} {length : Nat}
    (h : rule.byteMatch here.rest = .bytes length) :
    ∃ count, rule.matchAt (spotAt here) = .chars count ∧
      (here.skip count).offset = here.offset + length := by
  rw [byteMatch_eq] at h
  rw [spotAt_eq_start]
  cases hat : rule.matchAt (.start here.rest) with
  | none => rw [hat] at h; contradiction
  | misplaced => rw [hat] at h; contradiction
  | chars count =>
    rw [hat] at h
    obtain rfl := ByteMatch.bytes.inj h
    exact ⟨count, rfl, rfl⟩

/-- **Matches take whole characters.** At every place of a source, and for every rule, whose
expression may well work on bytes: where it has no match, it makes nothing of the text. The end of a
match that starts at the place is cut back, never below zero, to the last offset between two
characters, and the match counts if that is not zero. So many bytes further is a place between two
characters of the source again. And of several rules those with the longest match are the same,
whether bytes or characters are counted. -/
theorem match_in_whole_characters {source : Source} (here : Cursor source) :
    (∀ rule : Rule,
      (rule.regex.find? (spotAt here) = none → rule.byteMatch here.rest = .none) ∧
      (∀ start stop, rule.regex.find? (spotAt here) = some (start, stop) → start.offset = 0 →
        stop.offset ≤ byteSize here.rest ∧
        ∃ length, cutBack? (bytesOf here.rest) stop.offset = some length ∧
          IsGreatest {place | IsCharBoundary here.rest place ∧ place ≤ stop.offset} length ∧
          rule.byteMatch here.rest = if length = 0 then .none else .bytes length) ∧
      rule.byteMatch here.rest ≠ .underflow ∧
      rule.byteMatch here.rest = (rule.matchAt (spotAt here)).inBytes here.rest ∧
      ∀ length, rule.byteMatch here.rest = .bytes length →
        IsCharBoundary source.chars (here.offset + length) ∧ here.offset + length ≤ source.size ∧
        ∃ count, rule.matchAt (spotAt here) = .chars count ∧
          (here.skip count).offset = here.offset + length) ∧
    ∀ rules, chooseByBytes here.rest rules 0 [] =
      (longest rules (spotAt here)).map fun found =>
        ((here.skip found.1).offset - here.offset, found.2) := by
  rw [spotAt_eq_start]
  refine ⟨fun rule => ⟨fun hnone => ?_, fun start stop => byteMatch_of_find?,
    byteMatch_ne_underflow rule here.rest, byteMatch_eq rule here.rest, fun length h => ?_⟩,
    fun rules => ?_⟩
  · rw [Rule.byteMatch, hnone]
  · obtain ⟨count, hat, hoffset⟩ := place_of_byteMatch h
    rw [← hoffset]
    rw [spotAt_eq_start] at hat
    exact ⟨isBoundary_offset (here.skip count), (here.skip count).offset_le_size, count, hat, rfl⟩
  · rw [chooseByBytes_eq]
    have hskip (count : Nat) :
        byteSize (here.rest.take count) = (here.skip count).offset - here.offset :=
      (Nat.add_sub_cancel_left _ _).symm
    simp only [hskip]

/-- Two single bytes that are no slashes end in the middle of the second character. The first one is
left of that match. -/
theorem match_in_whole_characters_half : ∃ rule start stop count,
    RuleSpec.compile? false { name := "pair", matcher := .regex "[^/]\x7b2\x7d" } = some rule ∧
    rule.regex.find? (spotAt (.start (.ofString "aé/"))) = some (start, stop) ∧
    start.offset = 0 ∧ stop.offset = 2 ∧ rule.byteMatch "aé/".toList = .bytes 1 ∧
    rule.matchAt (spotAt (.start (.ofString "aé/"))) = .chars count ∧
    ((Cursor.start (.ofString "aé/")).skip count).offset = 0 + 1 := by
  have hrun : (RuleSpec.compile? false { name := "pair", matcher := .regex "[^/]\x7b2\x7d" }).bind
      (fun rule => (rule.regex.find? (spotAt (.start (.ofString "aé/")))).map fun found =>
        (found.1.offset, found.2.offset)) = some (0, 2) := by decide +kernel
  obtain ⟨rule, hcompile, hrun⟩ := Option.bind_eq_some_iff.1 hrun
  obtain ⟨⟨start, stop⟩, hfind, hoffsets⟩ := Option.map_eq_some_iff.1 hrun
  obtain ⟨hstart, hstop⟩ := Prod.mk.inj hoffsets
  have hplace := (match_in_whole_characters (.start (.ofString "aé/"))).1 rule
  obtain ⟨-, length, hcut, -, hmatch⟩ := hplace.2.1 start stop hfind hstart
  have hlength : cutBack? (bytesOf "aé/".toList) 2 = some 1 := by decide
  rw [hstop] at hcut
  obtain rfl : length = 1 := Option.some.inj (hcut.symm.trans hlength)
  obtain ⟨-, -, count, hat, hskip⟩ := hplace.2.2.2.2 1 hmatch
  exact ⟨rule, start, stop, count, hcompile, hfind, hstart, hstop, hmatch, hat, hskip⟩

end GrammarLang.Scan

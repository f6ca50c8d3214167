import GrammarLang.Proofs.Grammar.Words
import GrammarLang.Proofs.Regex.Barred

/-! # Words inside a regular expression

A regular expression ends at a slash, and what is behind that slash has no say in how the expression
is cut into words: **`Wins.in_front`**. All rules but one cannot match beyond a slash, which is a
*bar* to them. The exception is the escape for a property, which goes on up to its closing brace. It
does not get as far as the slash either, where the text behind the slash holds a closing brace and
the word does not go so far. -/

namespace GrammarLang.Regex

variable {bar : Char} {rest rest' : List Char}

/-- Two texts go on in front of a bar in the same way. -/
def SameFront (bar : Char) (rest rest' : List Char) (text text' : List Char) : Prop :=
  ∃ front, text = front ++ bar :: rest ∧ text' = front ++ bar :: rest'

namespace Expr

/-- The match of an expression that avoids a bar leaves the same in front of the bar. -/
theorem first?_sameFront {expr : Expr} (htextual : expr.textual = true)
    (h : expr.avoids bar = true) (front : List Char) :
    Option.Rel (SameFront bar rest rest') (expr.first? (front ++ bar :: rest))
      (expr.first? (front ++ bar :: rest')) := by
  have hrests (text : List Char) :=
    head?_rel (ends_rests htextual (Spot.inner_start text))
  have hstarts : Abreast bar rest rest' (.start (front ++ bar :: rest))
      (.start (front ++ bar :: rest')) := ⟨rfl, rfl, front, rfl, rfl⟩
  have habreast := head?_rel (ends_abreast h hstarts)
  have hleft := hrests (front ++ bar :: rest)
  have hright := hrests (front ++ bar :: rest')
  rw [Spot.rest_start] at hleft hright
  rw [first?, first?]
  generalize (expr.ends (.start (front ++ bar :: rest))).head? = stop at habreast hleft
  generalize (expr.ends (.start (front ++ bar :: rest'))).head? = stop' at habreast hright
  generalize (expr.rests (front ++ bar :: rest)).head? = left at hleft
  generalize (expr.rests (front ++ bar :: rest')).head? = right at hright
  cases habreast with
  | none =>
    cases hleft
    cases hright
    exact .none
  | some habreast =>
    obtain ⟨-, -, front', hstop, hstop'⟩ := habreast
    cases hleft with
    | some hleft =>
      cases hright with
      | some hright => exact .some ⟨front', hleft.2 ▸ hstop, hright.2 ▸ hstop'⟩

/-- Matches that leave the same in front of a bar take as much. -/
theorem takes?_sameFront {expr : Expr} {front : List Char}
    (h : Option.Rel (SameFront bar rest rest') (expr.first? (front ++ bar :: rest))
      (expr.first? (front ++ bar :: rest'))) :
    expr.takes? (front ++ bar :: rest) = expr.takes? (front ++ bar :: rest') := by
  rw [takes?, takes?]
  generalize expr.first? (front ++ bar :: rest) = left at h
  generalize expr.first? (front ++ bar :: rest') = right at h
  cases h with
  | none => rfl
  | some hsame =>
    obtain ⟨front', rfl, rfl⟩ := hsame
    simp only [List.length_append, List.length_cons]
    rw [show front.length + (rest.length + 1) - (front'.length + (rest.length + 1)) =
      front.length + (rest'.length + 1) - (front'.length + (rest'.length + 1)) by omega]

end Expr

end GrammarLang.Regex

namespace GrammarLang.Scan

variable {bar : Char}

/-- A rule whose expression avoids a bar matches the same in front of it, whatever is behind. -/
theorem Rule.matchLength?_in_front {rule : Rule} {body : Regex.Expr}
    (hexpr : rule.regex.expr = .seq (.look .textStart) body) (h : body.avoids bar = true)
    (front rest rest' : List Char) :
    rule.matchLength? (front ++ bar :: rest) = rule.matchLength? (front ++ bar :: rest') := by
  have hstart : Regex.Abreast bar rest rest' (.start (front ++ bar :: rest))
      (.start (front ++ bar :: rest')) := ⟨rfl, rfl, front, rfl, rfl⟩
  have hlook (text : List Char) : Regex.Look.textStart.holds (.start text) = true := by
    simp [Regex.Look.holds]
  -- Where a match from the start ends decides about the length.
  have hlength {stop : Option (Regex.Spot (front ++ bar :: rest))}
      {stop' : Option (Regex.Spot (front ++ bar :: rest'))}
      (hstop : Option.Rel (Regex.Abreast bar rest rest') stop stop')
      (hfind : rule.regex.find? (.start (front ++ bar :: rest)) =
        stop.map fun stop => (.start _, stop))
      (hfind' : rule.regex.find? (.start (front ++ bar :: rest')) =
        stop'.map fun stop => (.start _, stop)) :
      rule.matchLength? (front ++ bar :: rest) = rule.matchLength? (front ++ bar :: rest') := by
    rw [matchLength?, matchLength?, matchAt, matchAt, hfind, hfind']
    cases hstop with
    | none => rfl
    | @some stop stop' habreast =>
      obtain ⟨-, -, front', hrest, hrest'⟩ := habreast
      have hcount : (Regex.Spot.start (front ++ bar :: rest)).left - stop.left =
          (Regex.Spot.start (front ++ bar :: rest')).left - stop'.left := by
        simp only [Regex.Spot.left_eq, Regex.Spot.rest_start, hrest, hrest', List.length_append,
          List.length_cons]
        omega
      simp only [Option.map_some, if_true, hcount]
  have hanchored : (Regex.Expr.seq (.look .textStart) body).anchored = true := rfl
  by_cases hplain : (Regex.Expr.seq (.look .textStart) body).isPlain = true
  · have hends := Regex.head?_rel (Regex.Expr.ends_abreast h hstart)
    refine hlength hends ?_ ?_ <;>
      rw [Regex.find?, Regex.Expr.find?, hexpr, if_pos hanchored, if_pos hplain,
        Regex.Expr.firstEnd?, Regex.Expr.ends_seq, Regex.Expr.ends_look, if_pos (hlook _),
        Regex.follow_singleton]
  · have hsearch := (Regex.Expr.search_abreast h (0 + (Regex.Expr.look .textStart).forks)
      Regex.Search.endsAt Regex.Search.endsAt (fun _ _ hspot => .endsAt hspot) _ _ hstart) ∅ ∅
      (fun _ _ _ _ => by rw [Std.HashSet.contains_empty, Std.HashSet.contains_empty])
    refine hlength hsearch.1 ?_ ?_ <;>
      simp only [Regex.find?, Regex.Expr.find?, hexpr, if_pos hanchored, if_neg hplain,
        Regex.Expr.searchAmong?, Regex.Expr.search, if_pos (hlook _)] <;>
      split <;> simp_all

end GrammarLang.Scan

namespace GrammarLang.Grammar

open GrammarLang.Scan GrammarLang.Text

variable {table : RuleTable} {rest rest' : List Char}

/-! ## The escape for a property -/

/-- The text behind a property in braces, from behind the backslash. -/
def propertyEnd? : List Char → Option (List Char)
  | c :: '\x7b' :: cs =>
    if c = 'P' ∨ c = 'p' then (cs.dropWhile (· ≠ '\x7d')).tail? else none
  | _ => none

namespace Lexicon

/-- A property in braces. -/
def property : Regex.Expr :=
  .seq (.char [(80, 80), (112, 112)])
    (.seq (textOf "\x7b") (.seq (loopOf [(0, 124), (126, 1114111)] 0) (textOf "\x7d")))

/-- The escapes that consist of hexadecimal digits. -/
def codeEscapes : List Regex.Expr :=
  [.seq (textOf "x") (.repeated (.char hexDigits) 2 (some 2) true),
   .seq (textOf "x\x7b") bracedCode,
   .seq (textOf "u") (.repeated (.char hexDigits) 4 (some 4) true),
   .seq (textOf "u\x7b") bracedCode]

theorem bodyOf_regexEscape : bodyOf regexEscape =
    .seq (textOf "\\") (codeEscapes.foldr .alt (.alt property (.char anyChars))) := rfl

theorem unbraced_contains (c : Char) :
    Unicode.Ranges.contains [(0, 124), (126, 1114111)] c.toNat = decide (c ≠ '\x7d') := by
  have hle := toNat_le c
  rw [Bool.eq_iff_iff, decide_eq_true_eq, ne_eq, ← Char.toNat_inj, show '\x7d'.toNat = 125 from rfl]
  simp only [Unicode.Ranges.contains_cons, Unicode.Ranges.contains_nil, Bool.or_false]
  grind

theorem propertyLetter_contains (c : Char) :
    Unicode.Ranges.contains [(80, 80), (112, 112)] c.toNat = decide (c = 'P' ∨ c = 'p') := by
  rw [Bool.eq_iff_iff, decide_eq_true_eq, ← Char.toNat_inj, ← Char.toNat_inj,
    show 'P'.toNat = 80 from rfl, show 'p'.toNat = 112 from rfl]
  simp only [Unicode.Ranges.contains_cons, Unicode.Ranges.contains_nil, Bool.or_false]
  grind

/-- A property goes on up to the first closing brace. -/
theorem first?_unbraced (text : List Char) :
    (Regex.Expr.seq (loopOf [(0, 124), (126, 1114111)] 0) (textOf "\x7d")).first? text =
      (text.dropWhile (· ≠ '\x7d')).tail? := by
  have hbrace (c : Char) (cs : List Char) :
      (textOf "\x7d").first? (c :: cs) = if c = '\x7d' then some cs else none := by
    rw [first?_textOf]
    exact Regex.Letter.behind?_cons_cons '\x7d' c [] cs
  rw [Regex.Expr.first?_seq, loopOf, Regex.Expr.rests_loop unbraced_contains, if_pos rfl,
    List.drop_zero, Regex.findSome?_reverse_runs fun c cs hc => by
      rw [hbrace, if_neg (of_decide_eq_true hc)]]
  have hhead := List.head?_dropWhile_not (fun c => decide (c ≠ '\x7d')) text
  generalize text.dropWhile (fun c => decide (c ≠ '\x7d')) = rest at hhead
  cases rest with
  | nil => rfl
  | cons c cs =>
    rw [hbrace, if_pos (by simpa using hhead)]
    rfl

theorem first?_property (text : List Char) : property.first? text = propertyEnd? text := by
  rw [property, Regex.Expr.first?_seq]
  cases text with
  | nil => rfl
  | cons c cs =>
    rw [Regex.Expr.rests_char_cons, propertyLetter_contains]
    cases cs with
    | nil =>
      split <;> simp [first?_textOf_seq, Regex.Letter.behind?, propertyEnd?]
    | cons d ds =>
      by_cases hd : d = '\x7b'
      · subst hd
        have hbehind : Regex.Letter.behind? ("\x7b".toList.map .char) ('\x7b' :: ds) = some ds :=
          (Regex.Letter.behind?_eq_some_iff ['\x7b']).2 rfl
        rw [propertyEnd?]
        by_cases hc : c = 'P' ∨ c = 'p'
        · rw [if_pos hc, if_pos (decide_eq_true hc), List.findSome?_singleton, first?_textOf_seq,
            hbehind, Option.bind_some, first?_unbraced]
        · rw [if_neg hc, if_neg (by simpa using hc)]
          rfl
      · have hbehind : Regex.Letter.behind? [.char '\x7b'] (d :: ds) = none := by
          rw [Regex.Letter.behind?_cons_cons, if_neg hd]
        have hnone : propertyEnd? (c :: d :: ds) = none := by
          rw [propertyEnd?]
          rintro c' cs' ⟨⟩
          exact hd rfl
        rw [hnone]
        split <;> simp [first?_textOf_seq, hbehind]

/-- The escape is for hexadecimal digits, or for a property, or for any character. -/
theorem first?_escape (cs : List Char) : (bodyOf regexEscape).first? ('\\' :: cs) =
    (codeEscapes.findSome? fun code => code.first? cs).or
      ((propertyEnd? cs).or cs.tail?) := by
  have hany : (Regex.Expr.char anyChars).first? cs = cs.tail? := by
    cases cs with
    | nil => rfl
    | cons c cs => rw [Regex.Expr.first?_char_cons, if_pos (anyChars_contains c)]; rfl
  have hslash : Regex.Letter.behind? ("\\".toList.map .char) ('\\' :: cs) = some cs :=
    (Regex.Letter.behind?_eq_some_iff ['\\']).2 rfl
  rw [bodyOf_regexEscape, first?_textOf_seq, hslash, Option.bind_some]
  generalize codeEscapes = codes
  induction codes with
  | nil => rw [List.foldr_nil, Regex.Expr.first?_alt, first?_property, hany]; rfl
  | cons code codes ih =>
    rw [List.foldr_cons, Regex.Expr.first?_alt, ih, List.findSome?_cons]
    cases code.first? cs <;> rfl

end Lexicon

theorem propertyEnd?_cons_cons (c d : Char) (ds : List Char) :
    propertyEnd? (c :: d :: ds) =
      if d = '\x7b' ∧ (c = 'P' ∨ c = 'p') then (ds.dropWhile (· ≠ '\x7d')).tail? else none := by
  by_cases hd : d = '\x7b'
  · subst hd
    simp [propertyEnd?]
  · rw [if_neg fun h => hd h.1, propertyEnd?]
    rintro c' cs' ⟨⟩
    exact hd rfl

/-- The first closing brace of a text is found. -/
theorem tail?_dropWhile {front : List Char} (h : '\x7d' ∉ front) (behind : List Char) :
    ((front ++ '\x7d' :: behind).dropWhile (· ≠ '\x7d')).tail? = some behind := by
  have hfront : ∀ c ∈ front, decide (c ≠ '\x7d') = true := by
    intro c hc
    rw [decide_eq_true_eq]
    rintro rfl
    exact h hc
  rw [List.dropWhile_append_of_pos hfront, List.dropWhile_cons_of_neg (by simp)]
  rfl

/-- In front of a slash, with a closing brace behind it, a property is the same whatever is behind
the slash, unless it goes on behind the slash. -/
theorem propertyEnd?_in_front (hbrace : '\x7d' ∈ rest) (rest' cs : List Char) :
    Option.Rel (Regex.SameFront '/' rest rest') (propertyEnd? (cs ++ '/' :: rest))
        (propertyEnd? (cs ++ '/' :: rest')) ∨
      ∃ other, propertyEnd? (cs ++ '/' :: rest) = some other ∧ other.length ≤ rest.length := by
  match cs with
  | [] =>
    have hnone (rest : List Char) : propertyEnd? ('/' :: rest) = none := by
      cases rest with
      | nil => rfl
      | cons d ds => rw [propertyEnd?_cons_cons, if_neg fun h => by simp at h]
    rw [List.nil_append, List.nil_append, hnone, hnone]
    exact .inl .none
  | [c] =>
    have hnone (rest : List Char) : propertyEnd? (c :: '/' :: rest) = none := by
      rw [propertyEnd?_cons_cons, if_neg fun h => by simp at h]
    rw [List.singleton_append, List.singleton_append, hnone, hnone]
    exact .inl .none
  | c :: d :: ds =>
    simp only [List.cons_append, propertyEnd?_cons_cons]
    split
    · by_cases hinside : '\x7d' ∈ ds
      · obtain ⟨front, behind, rfl, hfront⟩ := List.eq_append_cons_of_mem hinside
        rw [List.append_assoc, List.append_assoc, List.cons_append, List.cons_append,
          tail?_dropWhile hfront, tail?_dropWhile hfront]
        exact .inl (.some ⟨behind, rfl, rfl⟩)
      · obtain ⟨front, behind, rfl, hfront⟩ := List.eq_append_cons_of_mem hbrace
        have hbefore : '\x7d' ∉ ds ++ '/' :: front := by simp [hinside, hfront]
        have htail := tail?_dropWhile hbefore behind
        rw [List.append_assoc, List.cons_append] at htail
        exact .inr ⟨behind, htail, by simp only [List.length_append, List.length_cons]; omega⟩
    · exact .inl .none

/-- The same holds of every escape. -/
theorem first?_escape_in_front (hbrace : '\x7d' ∈ rest) (rest' cs : List Char) {other : List Char}
    (hother : (Lexicon.bodyOf Lexicon.regexEscape).first? ('\\' :: (cs ++ '/' :: rest)) = some other)
    (hlt : rest.length < other.length) :
    ∃ front, other = front ++ '/' :: rest ∧
      (Lexicon.bodyOf Lexicon.regexEscape).first? ('\\' :: (cs ++ '/' :: rest')) =
        some (front ++ '/' :: rest') := by
  have hcodes : Option.Rel (Regex.SameFront '/' rest rest')
      (Lexicon.codeEscapes.findSome? fun code => code.first? (cs ++ '/' :: rest))
      (Lexicon.codeEscapes.findSome? fun code => code.first? (cs ++ '/' :: rest')) := by
    have hall : ∀ code ∈ Lexicon.codeEscapes, code.textual = true ∧ code.avoids '/' = true := by
      decide
    generalize Lexicon.codeEscapes = codes at hall
    induction codes with
    | nil => exact .none
    | cons code codes ih =>
      obtain ⟨htextual, havoids⟩ := hall code List.mem_cons_self
      have hfirst : Option.Rel (Regex.SameFront '/' rest rest') (code.first? (cs ++ '/' :: rest))
          (code.first? (cs ++ '/' :: rest')) := Regex.Expr.first?_sameFront htextual havoids cs
      rw [List.findSome?_cons, List.findSome?_cons]
      generalize code.first? (cs ++ '/' :: rest) = found at hfirst
      generalize code.first? (cs ++ '/' :: rest') = found' at hfirst
      cases hfirst with
      | none => exact ih fun code hcode => hall code (List.mem_cons_of_mem _ hcode)
      | some hfirst => exact .some hfirst
  rw [Lexicon.first?_escape] at hother ⊢
  generalize (Lexicon.codeEscapes.findSome? fun code => code.first? (cs ++ '/' :: rest)) = found
    at hcodes hother
  generalize (Lexicon.codeEscapes.findSome? fun code => code.first? (cs ++ '/' :: rest')) = found'
    at hcodes
  cases hcodes with
  | some hcodes =>
    obtain ⟨front, rfl, rfl⟩ := hcodes
    cases hother
    exact ⟨front, rfl, rfl⟩
  | none =>
    rw [Option.none_or] at hother ⊢
    rcases propertyEnd?_in_front hbrace rest' cs with hproperty | ⟨short, hshort, hle⟩
    · generalize propertyEnd? (cs ++ '/' :: rest) = found at hproperty hother
      generalize propertyEnd? (cs ++ '/' :: rest') = found' at hproperty
      cases hproperty with
      | some hproperty =>
        obtain ⟨front, rfl, rfl⟩ := hproperty
        cases hother
        exact ⟨front, rfl, rfl⟩
      | none =>
        rw [Option.none_or] at hother ⊢
        -- Any one character is left, unless it is the slash.
        cases cs with
        | nil => cases hother; simp at hlt
        | cons c cs => cases hother; exact ⟨cs, rfl, rfl⟩
    · rw [hshort] at hother
      cases hother
      omega

/-! ## All words -/

namespace Lexicon

/-- The rules inside a regular expression that do not match beyond a slash. -/
theorem avoids_slash {name : String} (hmem : name ∈ namesOf regexMode) (hslash : name ≠ "/")
    (hescape : name ≠ regexEscape) : (bodyOf name).avoids '/' = true := by
  have hall : ∀ name ∈ namesOf regexMode, name ≠ "/" → name ≠ regexEscape →
      (bodyOf name).avoids '/' = true := by decide
  exact hall name hmem hslash hescape

theorem first?_escape_of_ne {c : Char} (hc : c ≠ '\\') (cs : List Char) :
    (bodyOf regexEscape).first? (c :: cs) = none := by
  have hslash : Regex.Letter.behind? [.char '\\'] (c :: cs) = none := by
    rw [Regex.Letter.behind?_cons_cons, if_neg hc]
  rw [bodyOf_regexEscape, first?_textOf_seq, show "\\".toList.map Regex.Letter.char =
    [.char '\\'] from rfl, hslash, Option.bind_none]

end Lexicon

/-- A rule inside a regular expression matches the same in front of a slash, whatever is behind, if
there is a closing brace behind and the match does not go so far. -/
theorem matchLength?_in_front (h : Lexicon.table = .ok table) (hbrace : '\x7d' ∈ rest)
    (rest' : List Char) {rule : Rule} (hrule : rule ∈ table.rulesInMode Lexicon.regexMode) (c : Char)
    (cs : List Char)
    (hle : ∀ count, rule.matchLength? (c :: cs ++ '/' :: rest) = some count →
      count ≤ (c :: cs).length) :
    rule.matchLength? (c :: cs ++ '/' :: rest) = rule.matchLength? (c :: cs ++ '/' :: rest') := by
  have hmem := (List.mem_filter.1 hrule).1
  have hname : rule.name ∈ Lexicon.namesOf Lexicon.regexMode := by
    rw [← Lexicon.names_rulesInMode h]
    exact List.mem_map_of_mem hrule
  by_cases hslash : rule.name = "/"
  · have hfirst (text : List Char) : rule.matchLength? (c :: text) =
        if c = '/' then some 1 else none := by
      rw [Lexicon.matchLength?_eq h hmem (by rw [hslash]; decide), hslash, Regex.Expr.takes?,
        Lexicon.first?_sign (c := '/') rfl]
      by_cases hc : c = '/' <;> simp [hc]
    rw [List.cons_append, List.cons_append, hfirst, hfirst]
  · by_cases hescape : rule.name = Lexicon.regexEscape
    · rw [Lexicon.matchLength?_eq h hmem (by rw [hescape]; decide), hescape] at hle ⊢
      rw [Lexicon.matchLength?_eq h hmem (by rw [hescape]; decide), hescape]
      by_cases hc : c = '\\'
      · subst hc
        rw [List.cons_append] at hle
        rw [List.cons_append, List.cons_append]
        obtain ⟨other, hother⟩ : ∃ other,
            (Lexicon.bodyOf Lexicon.regexEscape).first? ('\\' :: (cs ++ '/' :: rest)) =
              some other := by
          rw [← Option.isSome_iff_exists, Lexicon.first?_escape]
          cases cs <;> simp
        have hlt : rest.length < other.length := by
          simp only [Regex.Expr.takes?, hother, List.length_cons, List.length_append] at hle
          by_contra hnot
          rw [if_neg (by omega)] at hle
          have hcount := hle _ rfl
          omega
        obtain ⟨front, rfl, hfirst⟩ := first?_escape_in_front hbrace rest' cs hother hlt
        have hsame : Option.Rel (Regex.SameFront '/' rest rest')
            ((Lexicon.bodyOf Lexicon.regexEscape).first? ('\\' :: cs ++ '/' :: rest))
            ((Lexicon.bodyOf Lexicon.regexEscape).first? ('\\' :: cs ++ '/' :: rest')) := by
          rw [List.cons_append, List.cons_append, hother, hfirst]
          exact .some ⟨front, rfl, rfl⟩
        exact Regex.Expr.takes?_sameFront hsame
      · rw [Regex.Expr.takes?, Regex.Expr.takes?, List.cons_append, List.cons_append,
          Lexicon.first?_escape_of_ne hc, Lexicon.first?_escape_of_ne hc]
    · exact Rule.matchLength?_in_front (Lexicon.expr_eq h hmem)
        (Lexicon.avoids_slash hname hslash hescape) _ _ _

/-- Where all rules match the same in two texts, so does the longest match. -/
theorem Wins.of_matchLength? {mode : String} {names : List String} {front behind behind' : List Char}
    (hwins : Wins table mode names front behind)
    (hsame : ∀ rule ∈ table.rulesInMode mode,
      rule.matchLength? (front ++ behind) = rule.matchLength? (front ++ behind')) :
    Wins table mode names front behind' := by
  refine ⟨⟨?_, ?_⟩, ?_⟩
  · obtain ⟨rule, hrule, hlength⟩ := hwins.longest.attained
    exact ⟨rule, hrule, (hsame rule hrule).symm.trans hlength⟩
  · intro rule hrule other hother
    exact hwins.longest.greatest rule hrule other ((hsame rule hrule).trans hother)
  · rw [← hwins.names_eq, tied, tied]
    congr 1
    exact List.filter_congr fun rule hrule => by rw [hsame rule hrule]

/-- The longest match inside a regular expression, in front of the slash, is the same whatever is
behind the slash. -/
theorem Wins.in_front (h : Lexicon.table = .ok table) {names : List String} {front behind : List Char}
    (hbrace : '\x7d' ∈ rest)
    (hwins : Wins table Lexicon.regexMode names front (behind ++ '/' :: rest)) (rest' : List Char) :
    Wins table Lexicon.regexMode names front (behind ++ '/' :: rest') := by
  have hpos := hwins.longest.bounds.1
  obtain ⟨c, cs, rfl⟩ := List.exists_cons_of_length_pos hpos
  refine hwins.of_matchLength? fun rule hrule => ?_
  have hle : ∀ count, rule.matchLength? (c :: (cs ++ behind) ++ '/' :: rest) = some count →
      count ≤ (c :: (cs ++ behind)).length := by
    intro count hcount
    have hgreatest := hwins.longest.greatest rule hrule count (by simpa using hcount)
    simp only [List.length_cons, List.length_append] at hgreatest ⊢
    omega
  simpa using matchLength?_in_front h hbrace rest' hrule c (cs ++ behind) hle

/-- The words inside a regular expression are kept and have no values of their own. -/
theorem Wins.word_regex (h : Lexicon.table = .ok table) {names : List String}
    {front behind : List Char} (hwins : Wins table Lexicon.regexMode names front behind) :
    Word table Lexicon.regexMode names front behind := by
  have hall : ∀ name ∈ Lexicon.namesOf Lexicon.regexMode, name ∉ Lexicon.ignoredNames ∧
      name ≠ Lexicon.number ∧ name ≠ Lexicon.string := by decide
  have hmem : ∀ name ∈ names, name ∈ Lexicon.namesOf Lexicon.regexMode := by
    intro name hname
    rw [← hwins.names_eq] at hname
    obtain ⟨rule, hrule, rfl⟩ := List.mem_map.1 hname
    rw [← Lexicon.names_rulesInMode h]
    exact List.mem_map_of_mem (List.mem_filter.1 hrule).1
  exact .of_wins hwins (fun name hname => (hall name (hmem name hname)).1)
    fun name hname => (hall name (hmem name hname)).2

/-- A slash is a word of its own inside a regular expression. -/
theorem word_regexSlash (h : Lexicon.table = .ok table) (cs : List Char) :
    Word table Lexicon.regexMode ["/"] ['/'] cs := by
  have hstarters : Lexicon.startersOf Lexicon.regexMode '/' = ["/"] := by decide
  refine Wins.word_regex h (.of_starters h hstarters (List.nil_append cs) (by decide) (by simp)
    (by simp) ?_ ?_)
  · intro name hname
    rw [List.mem_singleton.1 hname, Lexicon.first?_sign (c := '/') rfl, if_pos rfl]
  · intro name hname hother
    exact absurd hname hother

end GrammarLang.Grammar

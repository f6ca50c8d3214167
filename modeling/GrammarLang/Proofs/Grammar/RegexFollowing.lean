import GrammarLang.Proofs.Grammar.RegexNesting

/-! # Regular expressions in front of any text

A regular expression ends at a slash (**`EndsAtSlash`**): the text in front of it is cut into enclosed
token sets, so that the slash is the first one outside of classes.

Some rules for regular expressions could match a slash, or what is behind it. As long as there is a
closing brace somewhere behind they do not, and the same token sets are found in front of any other
text: **`EndsAtSlash.anyway`**. Only their places are others (**`TokenSet.later`**). -/

namespace GrammarLang.Scan

open GrammarLang.Text

/-! ## Tokens further on -/

/-- The token, as it is further on in a text. -/
def Token.later (token : Token) (n : Nat) : Token :=
  { token with span := ⟨token.span.start + n, token.span.stop + n⟩ }

/-- The token set, as it is further on in a text. -/
def TokenSet.later (set : TokenSet) (n : Nat) : TokenSet :=
  ⟨set.first.later n, set.others.map (·.later n)⟩

namespace TokenSet

@[simp] theorem toList_later (set : TokenSet) (n : Nat) :
    (set.later n).toList = set.toList.map (·.later n) := rfl

@[simp] theorem rules_later (set : TokenSet) (n : Nat) : (set.later n).rules = set.rules := by
  rw [rules, rules, toList_later, List.map_map]
  rfl

@[simp] theorem map_rules_later (sets : List TokenSet) (n : Nat) :
    (sets.map (·.later n)).map rules = sets.map rules := by
  rw [List.map_map]
  exact List.map_congr_left fun set _ => rules_later set n

@[simp] theorem later_zero (set : TokenSet) : set.later 0 = set := by
  obtain ⟨first, others⟩ := set
  exact congrArg (TokenSet.mk first) (List.map_id others)

end TokenSet

variable {offset n : Nat} {front : List Char} {rules : List Rule}

/-- What rules make of a text, they make of it further on as well. -/
theorem Reads.later {tokens : List Token} (h : List.Forall₂ (Reads offset front) rules tokens)
    (n : Nat) : List.Forall₂ (Reads (offset + n) front) rules (tokens.map (·.later n)) := by
  refine List.forall₂_map_right_iff.2 (h.imp ?_)
  rintro rule _ ⟨value, hvalue, rfl⟩
  refine ⟨value, hvalue, ?_⟩
  simp only [Token.later, Token.mk.injEq, Span.mk.injEq, and_true, true_and]
  omega

/-- What rules make of a text further on, they make of it here. -/
theorem Reads.exists_earlier {set : TokenSet}
    (h : List.Forall₂ (Reads (offset + n) front) rules set.toList) :
    ∃ set' : TokenSet, List.Forall₂ (Reads offset front) rules set'.toList ∧ set = set'.later n := by
  obtain ⟨tokens, htokens⟩ := Grammar.Word.exists_tokens offset front fun rule hrule =>
    Reads.accepted h hrule
  have hsame : set.toList = tokens.map (·.later n) := Reads.unique_list h (Reads.later htokens n)
  obtain ⟨first, others⟩ := set
  obtain ⟨first', others', rfl, hfirst, hothers⟩ := List.map_eq_cons_iff.1 hsame.symm
  exact ⟨⟨first', others'⟩, htokens, by rw [TokenSet.later, hfirst, hothers]⟩

/-! ## Advancing several times -/

namespace Scanner

/-- Advancing again and again, a scanner comes to stand at some token sets, one after the other. -/
inductive Advances : Scanner → List TokenSet → Scanner → Prop
  /-- The scanner does not advance. -/
  | nil {scanner : Scanner} : Advances scanner [] scanner
  /-- It advances to a token set, and from there on. -/
  | cons {scanner middle after : Scanner} {set : TokenSet} {sets : List TokenSet}
      (first : scanner.advance = .ok () middle) (current : middle.current = some set)
      (further : Advances middle sets after) : Advances scanner (set :: sets) after

/-- A scanner comes to stand at the token sets into which the text in front of it is cut. -/
theorem exists_advances {scanner : Scanner} {here stop : Nat × List Char} {sets : List TokenSet}
    (h : Munch rules here sets stop) (hrules : scanner.rules = rules) (hanchored : Anchored rules)
    (hspot : scanner.spot = here) : ∃ after, scanner.Advances sets after := by
  induction h generalizing scanner with
  | last => exact ⟨scanner, .nil⟩
  | next passed lexeme read _ ih =>
    subst hrules
    have hfirst := First.lexeme passed lexeme read
    rw [← hspot] at hfirst
    obtain ⟨middle, hadvance, hcurrent, hbehind⟩ := advance_of_first hanchored hfirst
    obtain ⟨-, htable, -, hentered, -⟩ := advance_first hanchored hadvance
    obtain ⟨after, hafter⟩ := ih (rules_eq htable hentered) hbehind
    exact ⟨after, .cons hadvance hcurrent hafter⟩

end Scanner

end GrammarLang.Scan

namespace GrammarLang.Grammar

open GrammarLang.Scan GrammarLang.Text

/-! ## In front of any text -/

/-- A regular expression in front of a slash and some text ends at this slash. -/
structure EndsAtSlash (rules : List Rule) (offset : Nat) (expression rest : List Char)
    (inner : List TokenSet) (slash : TokenSet) : Prop where
  /-- The expression is cut into token sets. -/
  cut : Munch rules (offset, expression ++ '/' :: rest) inner
    (offset + byteSize expression, '/' :: rest)
  /-- The next token set is the slash. -/
  first : First rules (offset + byteSize expression, '/' :: rest) (some slash)
    (offset + byteSize expression + 1, rest)
  /-- It is of the rule for slashes. -/
  sign : Is slash "/"
  /-- Classes and groups of the expression are closed, and its slashes stand in classes. -/
  enclosed : Enclosed inner

section

variable {slash set : TokenSet} {sets inner : List TokenSet} {table : RuleTable} {names : List String}
  {front behind behind' rest expression : List Char} {offset n : Nat}

/-- Which rules attain a longest match is told by their names. -/
theorem Wins.tied_eq {mode : String} (h : Lexicon.table = .ok table)
    (hnodup : (Lexicon.namesOf mode).Nodup) (hwins : Wins table mode names front behind) :
    tied (table.rulesInMode mode) (front ++ behind) front.length =
      (table.rulesInMode mode).filter fun rule => rule.name ∈ names := by
  rw [← Lexicon.names_rulesInMode h] at hnodup
  refine List.filter_congr fun rule hrule => ?_
  rw [decide_eq_decide, ← hwins.names_eq, List.mem_map]
  constructor
  · intro hlength
    exact ⟨rule, List.mem_filter.2 ⟨hrule, decide_eq_true hlength⟩, rfl⟩
  · rintro ⟨other, hother, hname⟩
    obtain ⟨hmem, hlength⟩ := List.mem_filter.1 hother
    obtain rfl := List.inj_on_of_nodup_map hnodup hmem hrule hname
    exact of_decide_eq_true hlength

/-- A word of a regular expression is the same token set in front of another text, but for its
place. -/
theorem Word.exists_earlier (h : Lexicon.table = .ok table)
    (hword : Word table Lexicon.regexMode names front behind)
    (hword' : Word table Lexicon.regexMode names front behind')
    (hread : List.Forall₂ (Reads (offset + n) front)
      (tied (table.rulesInMode Lexicon.regexMode) (front ++ behind) front.length) set.toList) :
    ∃ set' : TokenSet, First (table.rulesInMode Lexicon.regexMode) (offset, front ++ behind')
        (some set') (offset + byteSize front, behind') ∧ set = set'.later n := by
  have hnodup : (Lexicon.namesOf Lexicon.regexMode).Nodup := by decide
  rw [hword.tied_eq h hnodup, ← hword'.tied_eq h hnodup] at hread
  obtain ⟨set', hread', hlater⟩ := Reads.exists_earlier hread
  exact ⟨set', .lexeme .nil (hword'.isLexeme h) hread', hlater⟩

/-- Nothing is passed over in a regular expression. -/
theorem ungapped (h : Lexicon.table = .ok table) {gap : List Char}
    (hpassed : Passed (table.rulesInMode Lexicon.regexMode) rest gap) : gap = [] :=
  Parser.gap_eq_nil (fun _ hrule => Lexicon.ignored_eq_false h Parser.regexMode_ne hrule) hpassed

/-- In front of a slash, with a closing brace behind it, token sets of a regular expression are the
same whatever is behind the slash, but for their places. -/
theorem munch_in_front (h : Lexicon.table = .ok table) (hbrace : '\x7d' ∈ rest) (rest' : List Char)
    {here stop : Nat × List Char}
    (hmunch : Munch (table.rulesInMode Lexicon.regexMode) here sets stop)
    (hstop : stop.2 = '/' :: rest) {text : List Char} (hhere : here = (offset + n, text ++ '/' :: rest)) :
    ∃ sets', Munch (table.rulesInMode Lexicon.regexMode) (offset, text ++ '/' :: rest') sets'
        (offset + byteSize text, '/' :: rest') ∧ sets = sets'.map (·.later n) := by
  induction hmunch generalizing text offset with
  | last passed =>
    obtain rfl := ungapped h passed
    obtain ⟨-, hrest⟩ := Prod.mk.inj hhere
    obtain rfl : [] = text := List.append_cancel_right (hstop.symm.trans hrest)
    exact ⟨[], .last .nil, rfl⟩
  | @next _ gap front behind set sets stop passed lexeme read further ih =>
    obtain rfl := ungapped h passed
    simp only [byteSize_nil, Nat.add_zero] at read further ih
    obtain ⟨rfl, hrest⟩ := Prod.mk.inj hhere
    obtain ⟨gaps, last, -, hbehind⟩ := further.assemble
    rw [hstop] at hbehind
    generalize assemble gaps sets last = text' at hbehind
    simp only at hbehind
    subst hbehind
    obtain rfl : front ++ text' = text := by
      have hplace : (front ++ text') ++ '/' :: rest = text ++ '/' :: rest := by rw [← hrest]; simp
      exact List.append_cancel_right hplace
    -- The first token set is a word in front of the other text as well.
    have hword := Word.of_lexeme h lexeme read
    have hword' := (hword.toWins.in_front h hbrace rest').word_regex h
    obtain ⟨set', hfirst, hset⟩ := hword.exists_earlier h hword' read
    have hoffset : offset + n + byteSize front = offset + byteSize front + n := by omega
    obtain ⟨sets', hmunch', hsets⟩ := ih hstop (congrArg (·, text' ++ '/' :: rest) hoffset)
    refine ⟨set' :: sets', ?_, by rw [hset, hsets]; rfl⟩
    have hboth := hfirst.munch.append hmunch'
    simpa [Nat.add_assoc] using hboth

/-- A slash inside a regular expression is the same token set in front of another text, but for its
place. -/
theorem first_slash_earlier (h : Lexicon.table = .ok table) (rest' : List Char)
    (hfirst : First (table.rulesInMode Lexicon.regexMode) (offset + n, '/' :: rest) (some slash)
      (offset + n + 1, rest)) :
    ∃ slash', First (table.rulesInMode Lexicon.regexMode) (offset, '/' :: rest') (some slash')
      (offset + 1, rest') ∧ slash = slash'.later n := by
  generalize hhere : (offset + n, '/' :: rest) = here at hfirst
  generalize (offset + n + 1, rest) = stop at hfirst
  cases hfirst with
  | @lexeme _ gap front behind _ passed lexeme read =>
    obtain rfl := ungapped h passed
    obtain ⟨rfl, htext⟩ := Prod.mk.inj hhere
    have hword := Word.of_lexeme h lexeme read
    obtain ⟨hrules, rfl, rfl⟩ := (word_regexSlash h rest).unique hword.toWins htext
    exact hword.exists_earlier h (hrules ▸ word_regexSlash h rest') read

/-- A regular expression that ends at a slash in front of some text, with a closing brace in it, ends at
the slash in front of any other text, and it has the same token sets but for their places. -/
theorem EndsAtSlash.in_front (h : Lexicon.table = .ok table)
    (hends : EndsAtSlash (table.rulesInMode Lexicon.regexMode) (offset + n) expression rest inner slash)
    (hbrace : '\x7d' ∈ rest) (rest' : List Char) :
    ∃ inner' slash', EndsAtSlash (table.rulesInMode Lexicon.regexMode) offset expression rest' inner'
        slash' ∧ inner = inner'.map (·.later n) ∧ slash = slash'.later n := by
  have hoffset : offset + n + byteSize expression = offset + byteSize expression + n := by omega
  obtain ⟨inner', hcut, rfl⟩ := munch_in_front h hbrace rest' hends.cut rfl rfl
  have hfirst := hends.first
  rw [hoffset] at hfirst
  obtain ⟨slash', hfirst', rfl⟩ := first_slash_earlier h rest' hfirst
  refine ⟨inner', slash', ⟨hcut, hfirst', ?_, ?_⟩, rfl, rfl⟩
  · simpa [is_iff_mem_rules] using hends.sign
  · exact hends.enclosed.congr (TokenSet.map_rules_later ..)

/-- An expression ends at the slash behind it whatever comes then: it is cut into the same token sets,
and a scanner that starts at it, in the mode for regular expressions, comes to stand at them. -/
def EndsAnyway (table : RuleTable) (expression : List Char) (inner : List TokenSet)
    (slash : TokenSet) : Prop :=
  ∀ following,
    EndsAtSlash (table.rulesInMode Lexicon.regexMode) 0 expression following inner slash ∧
    ∀ scanner : Scanner, scanner.table = table → scanner.mode = Lexicon.regexMode →
      scanner.spot = (0, expression ++ '/' :: following) →
      ∃ after, scanner.Advances (inner ++ [slash]) after

/-- A regular expression that ends at a slash in a text, with a closing brace behind it, ends there
anyway. -/
theorem EndsAtSlash.anyway (h : Lexicon.table = .ok table)
    (hends : EndsAtSlash (table.rulesInMode Lexicon.regexMode) n expression rest inner slash)
    (hbrace : '\x7d' ∈ rest) :
    ∃ inner' slash', EndsAnyway table expression inner' slash' ∧ inner = inner'.map (·.later n) ∧
      slash = slash'.later n := by
  rw [← Nat.zero_add n] at hends
  obtain ⟨inner', slash', hends', hinner, hslash⟩ := hends.in_front h hbrace rest
  refine ⟨inner', slash', fun following => ?_, hinner, hslash⟩
  obtain ⟨inner'', slash'', hends'', rfl, rfl⟩ :=
    EndsAtSlash.in_front (n := 0) h hends' hbrace following
  simp only [TokenSet.later_zero, List.map_id_fun', id] at hends'' ⊢
  refine ⟨hends'', fun scanner htable hmode hspot => ?_⟩
  have hrules : scanner.rules = table.rulesInMode Lexicon.regexMode := by
    rw [Scanner.rules, htable, hmode]
  exact Scanner.exists_advances (hends''.cut.append hends''.first.munch) hrules
    (Lexicon.anchored_mode h Lexicon.regexMode) hspot

end

end GrammarLang.Grammar

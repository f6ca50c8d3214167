import GrammarLang.Proofs.Grammar.Table

/-! # Words of the notation

A **`Word`** is a text that the compiled rules of a mode cut off as a lexeme, with the names of the
rules that do so. Whether a text is one is read off the patterns: the rules that may match are those
whose matches may start with the first character, **`Lexicon.startersOf`**, and of these it is asked
how far they go.

* **`Wins.of_starters`** — how to see that a text is the longest match.
* **`Word.first`** — a word, possibly behind a gap, becomes the first token set of a text. -/

namespace GrammarLang.Grammar

open GrammarLang.Scan GrammarLang.Text

variable {table : RuleTable} {mode : String}

namespace Lexicon

/-- The rules of a mode whose matches may start with a character. -/
def startersOf (mode : String) (c : Char) : List String :=
  (namesOf mode).filter fun name => (bodyOf name).mayStart c

/-- The rules whose matches are passed over. -/
def ignoredNames : List String := ["whitespace", "line_comment", "block_comment"]

/-- All patterns but one are simple enough to be matched by listing their ends. -/
theorem plain_of_mem {name : String} (hmem : name ∈ rules.map RuleSpec.name)
    (hname : name ≠ regexRepeat) :
    (bodyOf name).textual = true ∧
      (Regex.Expr.seq (.look .textStart) (bodyOf name)).isPlain = true := by
  have hall : ∀ name ∈ rules.map RuleSpec.name, name ≠ regexRepeat →
      (bodyOf name).textual = true ∧
        (Regex.Expr.seq (.look .textStart) (bodyOf name)).isPlain = true := by
    decide
  exact hall name hmem hname

variable (h : Lexicon.table = .ok table)

include h

theorem name_mem {rule : Rule} (hmem : rule ∈ table.rules) :
    rule.name ∈ rules.map RuleSpec.name := by
  obtain ⟨spec, hspec, hname, -⟩ := spec_of_mem h hmem
  exact List.mem_map.2 ⟨spec, hspec, hname.symm⟩

theorem ignored_iff {rule : Rule} (hmem : rule ∈ table.rules) :
    rule.ignored = true ↔ rule.name ∈ ignoredNames := by
  obtain ⟨spec, hspec, hname, -, hignored, -⟩ := spec_of_mem h hmem
  have hall : ∀ spec ∈ rules, spec.ignored = true ↔ spec.name ∈ ignoredNames := by decide
  rw [hname, hignored]
  exact hall spec hspec

/-- A rule takes as many characters as its pattern, read by hand. -/
theorem matchLength?_eq {rule : Rule} (hmem : rule ∈ table.rules) (hname : rule.name ≠ regexRepeat)
    (text : List Char) : rule.matchLength? text = (bodyOf rule.name).takes? text := by
  obtain ⟨htextual, hplain⟩ := plain_of_mem (name_mem h hmem) hname
  have hexpr := expr_eq h hmem
  refine Rule.matchLength?_eq_takes? (by rw [hexpr]; rfl) (by rw [hexpr]; exact hplain) htextual ?_
  rw [hexpr, Regex.Expr.ends_textStart_seq]

/-- A counted repetition starts with a brace. -/
theorem regexRepeat_starts {rule : Rule} (hmem : rule ∈ table.rules)
    (hname : rule.name = regexRepeat) {c : Char} {cs : List Char} {count : Nat}
    (hlength : rule.matchLength? (c :: cs) = some count) : c = '\x7b' := by
  by_contra hc
  have hpast : (Regex.Spot.start (c :: cs)).past? [.char '\x7b'] = none := by
    have hrest : (Regex.Spot.start (c :: cs)).rest = c :: cs := rfl
    rw [Regex.Spot.past?_cons, Regex.Spot.pastLetter?, Regex.Spot.nextChar?_eq_some hrest rfl]
    simp [hc]
  have hplain : (Regex.Expr.seq (.look .textStart) (bodyOf regexRepeat)).isPlain = false := by
    decide
  have hlook : Regex.Look.textStart.holds (Regex.Spot.start (c :: cs)) = true := by
    simp [Regex.Look.holds]
  have hbody : bodyOf regexRepeat =
      .seq (textOf "\x7b")
        (.seq (loopOf digits 1)
          (.seq (.repeated (.seq (textOf ",") (loopOf digits 0)) 0 (some 1) true)
            (textOf "\x7d"))) := by
    decide
  have hfind : rule.regex.find? (.start (c :: cs)) = none := by
    rw [Regex.find?, Regex.Expr.find?, expr_eq h hmem, hname, hplain]
    simp [Regex.Expr.anchored, Regex.Expr.searchAmong?, Regex.Expr.search, hlook, hbody, textOf,
      hpast, Regex.Search.nothing]
  simp [Rule.matchLength?, Rule.matchAt, hfind] at hlength

/-- What a rule matches starts with a character that its matches may start with. -/
theorem mayStart_of_matchLength? {rule : Rule} (hmem : rule ∈ table.rules) {c : Char}
    {cs : List Char} {count : Nat} (hlength : rule.matchLength? (c :: cs) = some count) :
    (bodyOf rule.name).mayStart c = true := by
  by_cases hname : rule.name = regexRepeat
  · rw [hname, regexRepeat_starts h hmem hname hlength]
    decide
  · rw [matchLength?_eq h hmem hname, Regex.Expr.takes?] at hlength
    split at hlength
    · contradiction
    · exact Regex.Expr.mayStart_of_first? ‹_›

end Lexicon

/-! ## The longest match -/

/-- The longest match at the start of a text, and the names of the rules that attain it. -/
structure Wins (table : RuleTable) (mode : String) (names : List String)
    (front rest : List Char) : Prop where
  /-- No rule matches more. -/
  longest : IsLongest (table.rulesInMode mode) (front ++ rest) front.length
  /-- These are the rules that match as much. -/
  names_eq : (tied (table.rulesInMode mode) (front ++ rest) front.length).map Rule.name = names

/-- The rules that win have the names. -/
theorem Wins.name_mem {names : List String} {front rest : List Char}
    (h : Wins table mode names front rest) {rule : Rule}
    (hrule : rule ∈ tied (table.rulesInMode mode) (front ++ rest) front.length) :
    rule.name ∈ names := by
  rw [← h.names_eq]
  exact List.mem_map.2 ⟨rule, hrule, rfl⟩

/-- What a rule takes of a text is what it leaves of the text. -/
theorem takes?_append_iff {expr : Regex.Expr} {front rest : List Char} (hfront : front ≠ [])
    (hfirst : expr.first? (front ++ rest) = some rest) :
    expr.takes? (front ++ rest) = some front.length := by
  have hlength : 0 < front.length := List.length_pos_iff.2 hfront
  rw [Regex.Expr.takes?, hfirst]
  simp only [List.length_append, Nat.add_sub_cancel]
  rw [if_neg (by omega)]

/-- Of the rules that may match, some leave the same text, and all others leave more. -/
theorem Wins.of_starters (h : Lexicon.table = .ok table) {names starters : List String} {c : Char}
    {front rest cs : List Char} (hstarters : Lexicon.startersOf mode c = starters)
    (htext : front ++ rest = cs) (hrepeat : Lexicon.regexRepeat ∉ starters)
    (hnames : starters.filter (· ∈ names) = names) (hne : names ≠ [])
    (hwins : ∀ name ∈ names, (Lexicon.bodyOf name).first? (c :: cs) = some rest)
    (hloses : ∀ name ∈ starters, name ∉ names →
      ∀ other, (Lexicon.bodyOf name).first? (c :: cs) = some other → rest.length < other.length) :
    Wins table mode names (c :: front) rest := by
  subst hstarters
  have hwin : ∀ name ∈ names, (Lexicon.bodyOf name).first? (c :: front ++ rest) = some rest := by
    rwa [List.cons_append, htext]
  have hlose : ∀ name ∈ Lexicon.startersOf mode c, name ∉ names → ∀ other,
      (Lexicon.bodyOf name).first? (c :: front ++ rest) = some other →
        rest.length < other.length := by
    rwa [List.cons_append, htext]
  have hmemNames : ∀ name ∈ names, name ∈ Lexicon.startersOf mode c := by
    intro name hname
    rw [← hnames] at hname
    exact (List.mem_filter.1 hname).1
  have hlength : ∀ rule ∈ table.rulesInMode mode, ∀ count,
      rule.matchLength? (c :: front ++ rest) = some count →
        (rule.name ∈ names → count = (c :: front).length) ∧
          (rule.name ∉ names → count < (c :: front).length) := by
    intro rule hrule count hcount
    have hmem := (List.mem_filter.1 hrule).1
    have hstarts : rule.name ∈ Lexicon.startersOf mode c := by
      refine List.mem_filter.2 ⟨?_, Lexicon.mayStart_of_matchLength? h hmem hcount⟩
      rw [← Lexicon.names_rulesInMode h]
      exact List.mem_map.2 ⟨rule, hrule, rfl⟩
    have hrepeat' : rule.name ≠ Lexicon.regexRepeat := fun heq => hrepeat (heq ▸ hstarts)
    rw [Lexicon.matchLength?_eq h hmem hrepeat'] at hcount
    constructor
    · intro hname
      rw [takes?_append_iff (by simp) (hwin _ hname)] at hcount
      exact (Option.some.inj hcount).symm
    · intro hname
      rw [Regex.Expr.takes?] at hcount
      split at hcount
      · contradiction
      · rename_i other hother
        have hless := hlose _ hstarts hname other hother
        split at hcount
        · contradiction
        · have hcount := Option.some.inj hcount
          have hlength : (c :: front ++ rest).length = (c :: front).length + rest.length :=
            List.length_append
          have hpos : 0 < (c :: front).length := Nat.succ_pos _
          omega
  have hattained : ∀ rule ∈ table.rulesInMode mode,
      rule.matchLength? (c :: front ++ rest) = some (c :: front).length ↔ rule.name ∈ names := by
    intro rule hrule
    constructor
    · intro hcount
      by_contra hname
      exact absurd ((hlength rule hrule _ hcount).2 hname) (Nat.lt_irrefl _)
    · intro hname
      have hmem := (List.mem_filter.1 hrule).1
      have hrepeat' : rule.name ≠ Lexicon.regexRepeat :=
        fun heq => hrepeat (heq ▸ hmemNames _ hname)
      rw [Lexicon.matchLength?_eq h hmem hrepeat']
      exact takes?_append_iff (by simp) (hwin _ hname)
  have htied : (tied (table.rulesInMode mode) (c :: front ++ rest) (c :: front).length).map
      Rule.name = names := by
    have hfilter : tied (table.rulesInMode mode) (c :: front ++ rest) (c :: front).length =
        (table.rulesInMode mode).filter fun rule => rule.name ∈ names :=
      List.filter_congr fun rule hrule => by simpa using hattained rule hrule
    have hstarts : (Lexicon.namesOf mode).filter (· ∈ names) = names := by
      conv_rhs => rw [← hnames]
      rw [Lexicon.startersOf, List.filter_filter]
      refine List.filter_congr fun name _ => ?_
      by_cases hname : name ∈ names
      · simp [hname, (List.mem_filter.1 (hmemNames name hname)).2]
      · simp [hname]
    conv_rhs => rw [← hstarts, ← Lexicon.names_rulesInMode h]
    rw [hfilter, List.filter_map]
    rfl
  refine ⟨⟨?_, fun rule hrule count hcount => ?_⟩, htied⟩
  · have htiedNe : tied (table.rulesInMode mode) (c :: front ++ rest) (c :: front).length ≠ [] := by
      intro hnil
      rw [hnil] at htied
      exact hne htied.symm
    obtain ⟨rule, hrule⟩ := List.exists_mem_of_ne_nil _ htiedNe
    obtain ⟨hmem, hcount⟩ := List.mem_filter.1 hrule
    exact ⟨rule, hmem, of_decide_eq_true hcount⟩
  · by_cases hname : rule.name ∈ names
    · exact Nat.le_of_eq ((hlength rule hrule count hcount).1 hname)
    · exact Nat.le_of_lt ((hlength rule hrule count hcount).2 hname)

/-- There is one longest match only, and one list of names for it. -/
theorem Wins.unique {names names' : List String} {front front' rest rest' : List Char}
    (h : Wins table mode names front rest) (h' : Wins table mode names' front' rest')
    (htext : front ++ rest = front' ++ rest') : names = names' ∧ front = front' ∧ rest = rest' := by
  have hlongest := h'.longest
  rw [← htext] at hlongest
  obtain ⟨rfl, rfl⟩ := List.append_inj htext (h.longest.unique hlongest)
  exact ⟨h.names_eq.symm.trans h'.names_eq, rfl, rfl⟩

/-! ## Words -/

/-- The text `front`, with `rest` behind it, is a longest match that is kept and has values. -/
structure Word (table : RuleTable) (mode : String) (names : List String)
    (front rest : List Char) : Prop extends Wins table mode names front rest where
  /-- None of the rules passes over its matches. -/
  kept : ∀ name ∈ names, name ∉ Lexicon.ignoredNames
  /-- The decoders of the rules accept the text. -/
  read : ∀ name ∈ names, ∀ decoder, Lexicon.decoderOf name = some decoder →
    ∃ value, decoder (String.ofList front) = .ok value

/-- Only numbers and string literals are decoded. -/
theorem decoderOf_eq_none {name : String} (hnumber : name ≠ Lexicon.number) (hstring : name ≠ Lexicon.string) :
    Lexicon.decoderOf name = none := by
  rw [Lexicon.decoderOf, if_neg hnumber, if_neg hstring]

/-- The longest match of rules that are neither numbers nor string literals is a word. -/
theorem Word.of_wins {names : List String} {front rest : List Char}
    (h : Wins table mode names front rest) (hkept : ∀ name ∈ names, name ∉ Lexicon.ignoredNames)
    (hplain : ∀ name ∈ names, name ≠ Lexicon.number ∧ name ≠ Lexicon.string) :
    Word table mode names front rest where
  toWins := h
  kept := hkept
  read name hname decoder hdecoder := by
    rw [decoderOf_eq_none (hplain name hname).1 (hplain name hname).2] at hdecoder
    contradiction

/-- A token set is what rules with given names make of a text that starts at a given offset. -/
structure Shows (set : TokenSet) (names : List String) (front : List Char) (start : Nat) : Prop where
  /-- There is one token for each name. -/
  rules_eq : set.rules = names
  /-- All tokens have the text. -/
  text_eq : ∀ token ∈ set.toList, token.text = String.ofList front
  /-- All tokens start at the offset. -/
  start_eq : ∀ token ∈ set.toList, token.span.start = start

namespace Word

variable {names : List String} {front rest gap : List Char}

theorem isLexeme (hword : Word table mode names front rest) (h : Lexicon.table = .ok table) :
    IsLexeme (table.rulesInMode mode) front rest := by
  refine ⟨hword.longest, fun rule hrule => ?_⟩
  have hmem := (List.mem_filter.1 (List.mem_filter.1 hrule).1).1
  exact Bool.eq_false_iff.2 fun hignored =>
    hword.kept _ (hword.name_mem hrule) ((Lexicon.ignored_iff h hmem).1 hignored)

/-- Rules that accept a text make tokens of it. -/
theorem exists_tokens {rules : List Rule} (offset : Nat) (front : List Char)
    (haccept : ∀ rule ∈ rules, ∃ value, rule.evaluate (String.ofList front) = .ok value) :
    ∃ tokens, List.Forall₂ (Reads offset front) rules tokens := by
  induction rules with
  | nil => exact ⟨[], .nil⟩
  | cons rule rules ih =>
    obtain ⟨value, hvalue⟩ := haccept rule List.mem_cons_self
    obtain ⟨tokens, htokens⟩ := ih fun other hother => haccept other (List.mem_cons_of_mem _ hother)
    exact ⟨_ :: tokens, .cons ⟨value, hvalue, rfl⟩ htokens⟩

/-- A word behind a gap is the first token set of a text. -/
theorem first (hword : Word table mode names front rest) (h : Lexicon.table = .ok table)
    (hpassed : Passed (table.rulesInMode mode) (front ++ rest) gap) (offset : Nat) :
    ∃ set, First (table.rulesInMode mode) (offset, gap ++ (front ++ rest)) (some set)
        (offset + byteSize gap + byteSize front, rest) ∧
      Shows set names front (offset + byteSize gap) := by
  have haccept : ∀ rule ∈ tied (table.rulesInMode mode) (front ++ rest) front.length,
      ∃ value, rule.evaluate (String.ofList front) = .ok value := by
    intro rule hrule
    have hmem := (List.mem_filter.1 (List.mem_filter.1 hrule).1).1
    rw [Rule.evaluate, Lexicon.decoder_eq h hmem]
    split
    · exact ⟨_, rfl⟩
    · rename_i decoder hdecoder
      exact hword.read _ (hword.name_mem hrule) decoder hdecoder
  obtain ⟨tokens, htokens⟩ := exists_tokens (offset + byteSize gap) front haccept
  obtain ⟨token, tokens, rfl⟩ : ∃ token others, tokens = token :: others := by
    cases tokens with
    | nil =>
      rw [List.forall₂_nil_right_iff] at htokens
      exact absurd htokens hword.longest.tied_ne_nil
    | cons token others => exact ⟨token, others, rfl⟩
  refine ⟨⟨token, tokens⟩, .lexeme hpassed (hword.isLexeme h) htokens, ?_, ?_, ?_⟩
  · exact (Reads.names_eq htokens).trans hword.names_eq
  · intro other hother
    obtain ⟨rule, -, value, -, rfl⟩ := Reads.of_mem htokens hother
    rfl
  · intro other hother
    obtain ⟨rule, -, value, -, rfl⟩ := Reads.of_mem htokens hother
    rfl

/-- What was read as a token set is a word. -/
theorem of_lexeme (h : Lexicon.table = .ok table) {offset : Nat} {set : TokenSet}
    (hlexeme : IsLexeme (table.rulesInMode mode) front rest)
    (hread : List.Forall₂ (Reads offset front)
      (tied (table.rulesInMode mode) (front ++ rest) front.length) set.toList) :
    Word table mode set.rules front rest := by
  have hrule : ∀ name ∈ set.rules, ∃ rule ∈ table.rules, rule.name = name ∧
      rule.ignored = false ∧ ∃ value, rule.evaluate (String.ofList front) = .ok value := by
    intro name hname
    obtain ⟨token, htoken, rfl⟩ := List.mem_map.1 hname
    obtain ⟨rule, hrule, value, hvalue, rfl⟩ := Reads.of_mem hread htoken
    exact ⟨rule, (List.mem_filter.1 (List.mem_filter.1 hrule).1).1, rfl, hlexeme.kept rule hrule,
      value, hvalue⟩
  refine ⟨⟨hlexeme.longest, (Reads.names_eq hread).symm⟩, fun name hname hignored => ?_,
    fun name hname decoder hdecoder => ?_⟩
  · obtain ⟨rule, hmem, rfl, hkept, -⟩ := hrule name hname
    rw [(Lexicon.ignored_iff h hmem).2 hignored] at hkept
    contradiction
  · obtain ⟨rule, hmem, rfl, -, value, hvalue⟩ := hrule name hname
    rw [Rule.evaluate, Lexicon.decoder_eq h hmem, hdecoder] at hvalue
    exact ⟨value, hvalue⟩

end Word

end GrammarLang.Grammar

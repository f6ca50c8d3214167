import GrammarLang.Proofs.Grammar.CodeWords
import GrammarLang.Proofs.Grammar.Leads
import GrammarLang.Proofs.Grammar.RegexWords
import GrammarLang.Proofs.Regex.Closing

/-! # The words of the notation are unambiguous

In each mode one rule at most attains the longest match of a text. There is one exception: in the
notation proper the keyword is a name as well. **`names_tied`** says so for all texts. The first
character of a text leaves one rule in most cases; where it leaves several, these are literals, or
they end with different characters.

Inside code some rule always matches (**`exists_longest_code`**), and inside a regular expression only
a backslash at the end of the text is matched by none (**`unmatched_regex_iff`**). -/

namespace GrammarLang.Scan

/-- The last character of a match is one of those that the pattern ends with. -/
theorem Rule.getElem?_of_matchLength? {rule : Rule} {closers : List Char}
    (h : rule.regex.expr.closedBy closers = true) {text : List Char} {count : Nat}
    (hlength : rule.matchLength? text = some count) : ∃ c ∈ closers, text[count - 1]? = some c := by
  rw [matchLength?] at hlength
  split at hlength
  · rename_i hmatch
    cases hlength
    simp only [matchAt] at hmatch
    split at hmatch
    · contradiction
    · rename_i found stop hfind
      split at hmatch
      · split at hmatch
        · contradiction
        · cases hmatch
          obtain ⟨c, hc, hbefore⟩ := Regex.Expr.before_of_find? h hfind
          exact ⟨c, hc, Regex.Spot.getElem?_of_before hbefore⟩
      · contradiction
  · contradiction

end GrammarLang.Scan

namespace GrammarLang.Grammar

open GrammarLang.Scan GrammarLang.Text

open Lexicon (ident regexChar regexRepeat regexEscape regexInlineFlags regexGroupOpen)

variable {table : RuleTable} {mode : String}

/-! ## Rules that never match the same -/

namespace Lexicon

/-- Whether a rule matches just its own name. -/
def isLiteral (name : String) : Bool := bodyOf name = textOf name

/-- The characters that the matches of a rule end with, as far as that tells it from others. -/
def closersOf (name : String) : List Char :=
  if name = regexInlineFlags then [')']
  else if name = regexGroupOpen then [':', '>']
  else if name = regexRepeat then ['\x7d']
  else name.toList.getLast?.toList

/-- Two rules that never match the same stretch of text, unless they have the same name: both are
literals, or their matches end with different characters. -/
def Exclusive (name other : String) : Prop :=
  (isLiteral name = true ∧ isLiteral other = true) ∨
    ((bodyOf name).closedBy (closersOf name) = true ∧
      (bodyOf other).closedBy (closersOf other) = true ∧
      ∀ c ∈ closersOf name, c ∉ closersOf other)

instance (name other : String) : Decidable (Exclusive name other) :=
  have : Decidable (∀ c ∈ closersOf name, c ∉ closersOf other) := List.decidableBAll _ _
  inferInstanceAs (Decidable (_ ∨ _))

variable (h : Lexicon.table = .ok table)
include h

/-- A rule for a literal matches that literal. -/
theorem take_of_isLiteral {rule : Rule} (hmem : rule ∈ table.rules)
    (hname : isLiteral rule.name = true) {text : List Char} {count : Nat}
    (hlength : rule.matchLength? text = some count) : text.take count = rule.name.toList := by
  have hbody : bodyOf rule.name = textOf rule.name := by simpa [isLiteral] using hname
  have hrepeat : rule.name ≠ regexRepeat := by
    intro heq
    rw [heq] at hname
    exact absurd hname (by decide)
  rw [matchLength?_eq h hmem hrepeat, hbody, Regex.Expr.takes?, first?_textOf] at hlength
  split at hlength
  · contradiction
  · rename_i rest hrest
    rw [Regex.Letter.behind?_eq_some_iff] at hrest
    split at hlength
    · contradiction
    · cases hlength
      rw [hrest, List.length_append, Nat.add_sub_cancel, List.take_left]

/-- Rules that are exclusive do not both match the same stretch of text. -/
theorem name_eq_of_exclusive {rule other : Rule} (hmem : rule ∈ table.rules) (hmem' : other ∈ table.rules)
    (hexclusive : rule.name = other.name ∨ Exclusive rule.name other.name) {text : List Char} {count : Nat}
    (hlength : rule.matchLength? text = some count)
    (hlength' : other.matchLength? text = some count) : rule.name = other.name := by
  rcases hexclusive with heq | ⟨hliteral, hliteral'⟩ | ⟨hclosed, hclosed', hexclusive⟩
  · exact heq
  · have htake := take_of_isLiteral h hmem hliteral hlength
    rw [take_of_isLiteral h hmem' hliteral' hlength'] at htake
    exact (String.toList_injective htake).symm
  · rw [show (bodyOf rule.name).closedBy (closersOf rule.name) =
      rule.regex.expr.closedBy (closersOf rule.name) by rw [expr_eq h hmem]; rfl] at hclosed
    rw [show (bodyOf other.name).closedBy (closersOf other.name) =
      other.regex.expr.closedBy (closersOf other.name) by rw [expr_eq h hmem']; rfl] at hclosed'
    obtain ⟨c, hc, hlast⟩ := Rule.getElem?_of_matchLength? hclosed hlength
    obtain ⟨d, hd, hlast'⟩ := Rule.getElem?_of_matchLength? hclosed' hlength'
    rw [hlast] at hlast'
    cases hlast'
    exact absurd hd (hexclusive c hc)

end Lexicon

/-! ## Ties -/

/-- Rules that tie are rules of the mode. -/
theorem mem_of_mem_tied {rule : Rule} {text : List Char} {count : Nat}
    (hrule : rule ∈ tied (table.rulesInMode mode) text count) :
    rule ∈ table.rules ∧ rule.mode = mode ∧ rule.matchLength? text = some count := by
  rw [tied, List.mem_filter, RuleTable.rulesInMode, List.mem_filter] at hrule
  exact ⟨hrule.1.1, by simpa using hrule.1.2, by simpa using hrule.2⟩

/-- If rules that tie have the same name, then there is one of them at most. -/
theorem length_tied_le_one (h : Lexicon.table = .ok table) (hnodup : (Lexicon.namesOf mode).Nodup)
    {text : List Char} {count : Nat}
    (hsame : ∀ rule ∈ tied (table.rulesInMode mode) text count,
      ∀ other ∈ tied (table.rulesInMode mode) text count, rule.name = other.name) :
    (tied (table.rulesInMode mode) text count).length ≤ 1 := by
  have hsublist : ((tied (table.rulesInMode mode) text count).map Rule.name).Nodup := by
    rw [← Lexicon.names_rulesInMode h] at hnodup
    exact hnodup.sublist (List.filter_sublist.map Rule.name)
  generalize tied (table.rulesInMode mode) text count = rules at hsublist hsame
  match rules with
  | [] => simp
  | [_] => simp
  | first :: second :: others =>
    have heq := hsame first (by simp) second (by simp)
    simp [heq] at hsublist

/-- The rules that tie may start with the first character. -/
theorem mem_starters_of_mem_tied (h : Lexicon.table = .ok table) {rule : Rule} {c : Char}
    {cs : List Char} {count : Nat} (hrule : rule ∈ tied (table.rulesInMode mode) (c :: cs) count) :
    rule.name ∈ Lexicon.startersOf mode c := by
  obtain ⟨hmem, hmode, hlength⟩ := mem_of_mem_tied hrule
  refine List.mem_filter.2 ⟨?_, Lexicon.mayStart_of_matchLength? h hmem hlength⟩
  rw [← Lexicon.names_rulesInMode h]
  exact List.mem_map_of_mem (List.mem_filter.2 ⟨hmem, by simpa using hmode⟩)

/-- If the rules that may start with a character are exclusive, then one of them at most attains a
match. -/
theorem length_tied_of_starters (h : Lexicon.table = .ok table)
    (hnodup : (Lexicon.namesOf mode).Nodup) {c : Char} {cs : List Char} {count : Nat}
    (hexclusive : ∀ name ∈ Lexicon.startersOf mode c, ∀ other ∈ Lexicon.startersOf mode c,
      name = other ∨ Lexicon.Exclusive name other) :
    (tied (table.rulesInMode mode) (c :: cs) count).length ≤ 1 := by
  refine length_tied_le_one h hnodup fun rule hrule other hother => ?_
  obtain ⟨hmem, -, hlength⟩ := mem_of_mem_tied hrule
  obtain ⟨hmem', -, hlength'⟩ := mem_of_mem_tied hother
  exact Lexicon.name_eq_of_exclusive h hmem hmem'
    (hexclusive _ (mem_starters_of_mem_tied h hrule) _ (mem_starters_of_mem_tied h hother)) hlength hlength'

/-! ## Starters -/

namespace Lexicon

/-- Beyond the plain characters, only one rule of the mode may start. -/
theorem exclusive_of_far (name : String) {c : Char} (hc : ¬ c.toNat < 128)
    (hnames : ((namesOf mode).filter fun name => ¬ (bodyOf name).startsBelow 128) = [name])
    {first second : String} (hfirst : first ∈ startersOf mode c) (hsecond : second ∈ startersOf mode c) :
    first = second := by
  have hname {other : String} (hother : other ∈ startersOf mode c) : other = name := by
    rw [startersOf_eq hc, hnames] at hother
    exact List.mem_singleton.1 (List.mem_of_mem_filter hother)
  rw [hname hfirst, hname hsecond]

/-- In the notation proper, the rules that may start with a character are exclusive, unless it is a
slash or starts a name. -/
theorem exclusive_main {c : Char} (hslash : c ≠ '/') (hstart : isNameStart c = false) {name : String}
    (hname : name ∈ startersOf defaultMode c) {other : String}
    (hother : other ∈ startersOf defaultMode c) : name = other ∨ Exclusive name other := by
  by_cases hascii : c.toNat < 128
  · have hplain : ∀ n < 128, Char.ofNat n ≠ '/' → isNameStart (Char.ofNat n) = false →
        ∀ name ∈ startersOf defaultMode (Char.ofNat n),
          ∀ other ∈ startersOf defaultMode (Char.ofNat n), name = other ∨ Exclusive name other := by
      decide +kernel
    exact of_ascii (P := fun c => c ≠ '/' → isNameStart c = false →
      ∀ name ∈ startersOf defaultMode c, ∀ other ∈ startersOf defaultMode c,
        name = other ∨ Exclusive name other) hplain hascii hslash hstart name hname other hother
  · exact .inl (exclusive_of_far "whitespace" hascii (by decide) hname hother)

/-- Inside a regular expression, the rules that may start with a character are exclusive, unless it is
a brace. -/
theorem exclusive_regex {c : Char} (hbrace : c ≠ '\x7b') {name : String}
    (hname : name ∈ startersOf regexMode c) {other : String}
    (hother : other ∈ startersOf regexMode c) : name = other ∨ Exclusive name other := by
  by_cases hascii : c.toNat < 128
  · have hplain : ∀ n < 128, Char.ofNat n ≠ '\x7b' → ∀ name ∈ startersOf regexMode (Char.ofNat n),
        ∀ other ∈ startersOf regexMode (Char.ofNat n), name = other ∨ Exclusive name other := by
      decide +kernel
    exact of_ascii (P := fun c => c ≠ '\x7b' → ∀ name ∈ startersOf regexMode c,
      ∀ other ∈ startersOf regexMode c, name = other ∨ Exclusive name other) hplain hascii hbrace
        name hname other hother
  · exact .inl (exclusive_of_far regexChar hascii (by decide) hname hother)

end Lexicon

/-! ## Each mode -/

/-- What ties at the longest match has the names of a word that is known to be there. -/
theorem names_tied_of_wins {names : List String} {text front rest : List Char} {count : Nat}
    (hlongest : IsLongest (table.rulesInMode mode) text count)
    (hwins : Wins table mode names front rest) (htext : text = front ++ rest) :
    (tied (table.rulesInMode mode) text count).map Rule.name = names ∧ text.take count = front := by
  subst htext
  obtain rfl := hlongest.unique hwins.longest
  exact ⟨hwins.names_eq, List.take_left⟩

/-- A slash starts a comment, or else it is a sign. -/
theorem length_tied_slash (h : Lexicon.table = .ok table) {cs : List Char} {count : Nat}
    (hlongest : IsLongest (table.rulesInMode defaultMode) ('/' :: cs) count) :
    (tied (table.rulesInMode defaultMode) ('/' :: cs) count).length ≤ 1 := by
  have hone {name : String} {front rest : List Char} (hwins : Wins table defaultMode [name] front rest)
      (htext : '/' :: cs = front ++ rest) :
      (tied (table.rulesInMode defaultMode) ('/' :: cs) count).length ≤ 1 := by
    have hnames := congrArg List.length (names_tied_of_wins hlongest hwins htext).1
    rw [List.length_map] at hnames
    exact hnames.le
  by_cases hline : ∃ ds, cs = '/' :: ds
  · obtain ⟨ds, rfl⟩ := hline
    exact hone (wins_lineComment h ds) (by simp [List.takeWhile_append_dropWhile])
  by_cases hblock : ∃ ds rest, cs = '*' :: ds ∧ commentEnd? ds = some rest
  · obtain ⟨ds, rest, rfl, hend⟩ := hblock
    obtain ⟨front, rfl⟩ := commentEnd?_suffix hend
    exact hone (wins_blockComment h hend) rfl
  -- No comment starts here, so the sign is left.
  refine length_tied_le_one h (by decide) fun rule hrule other hother => ?_
  have hsign : ∀ rule ∈ tied (table.rulesInMode defaultMode) ('/' :: cs) count, rule.name = "/" := by
    intro rule hrule
    obtain ⟨hmem, -, hlength⟩ := mem_of_mem_tied hrule
    have hname := mem_starters_of_mem_tied h hrule
    rw [Lexicon.startersOf_slash] at hname
    have hrepeat : rule.name ≠ regexRepeat := by
      rintro heq
      rw [heq] at hname
      exact absurd hname (by decide)
    rw [Lexicon.matchLength?_eq h hmem hrepeat, Regex.Expr.takes?] at hlength
    simp only [List.mem_cons, List.not_mem_nil, or_false] at hname
    rcases hname with hname | hname | hname
    · rw [hname, Lexicon.first?_line_comment] at hlength
      cases cs with
      | nil => simp [Regex.Letter.behind?] at hlength
      | cons d ds =>
        have hd : d ≠ '/' := fun heq => hline ⟨ds, heq ▸ rfl⟩
        simp [Regex.Letter.behind?_cons_cons, hd] at hlength
    · rw [hname, Lexicon.first?_block_comment] at hlength
      cases cs with
      | nil => simp [Regex.Letter.behind?] at hlength
      | cons d ds =>
        by_cases hd : d = '*'
        · cases hend : commentEnd? ds with
          | none => simp [hd, Regex.Letter.behind?, hend] at hlength
          | some rest => exact absurd ⟨ds, rest, hd ▸ rfl, hend⟩ hblock
        · simp [Regex.Letter.behind?_cons_cons, hd] at hlength
    · exact hname
  rw [hsign rule hrule, hsign other hother]

/-- A counted repetition does not end where a single brace does. -/
theorem length_tied_brace (h : Lexicon.table = .ok table) {cs : List Char} {count : Nat} :
    (tied (table.rulesInMode Lexicon.regexMode) ('\x7b' :: cs) count).length ≤ 1 := by
  refine length_tied_le_one h (by decide) ?_
  have hstarters : Lexicon.startersOf Lexicon.regexMode '\x7b' = [regexRepeat, regexChar] := by decide
  have hchar {rule : Rule} (hmem : rule ∈ table.rules) (hname : rule.name = regexChar)
      (hlength : rule.matchLength? ('\x7b' :: cs) = some count) : count = 1 := by
    rw [Lexicon.matchLength?_eq h hmem (by rw [hname]; decide), Regex.Expr.takes?, hname,
      show Lexicon.bodyOf regexChar = .char _ from rfl, Regex.Expr.first?_char_cons,
      if_pos (by decide)] at hlength
    simpa using hlength.symm
  have hrepeat {rule : Rule} (hmem : rule ∈ table.rules) (hname : rule.name = regexRepeat)
      (hlength : rule.matchLength? ('\x7b' :: cs) = some count) : count ≠ 1 := by
    rintro rfl
    have hclosed : rule.regex.expr.closedBy ['\x7d'] = true := by
      rw [Lexicon.expr_eq h hmem, hname]
      decide
    obtain ⟨c, hc, hlast⟩ := Rule.getElem?_of_matchLength? hclosed hlength
    rw [List.mem_singleton.1 hc] at hlast
    simp at hlast
  intro rule hrule other hother
  obtain ⟨hmem, -, hlength⟩ := mem_of_mem_tied hrule
  obtain ⟨hmem', -, hlength'⟩ := mem_of_mem_tied hother
  have hname := mem_starters_of_mem_tied h hrule
  have hname' := mem_starters_of_mem_tied h hother
  simp only [hstarters, List.mem_cons, List.not_mem_nil, or_false] at hname hname'
  rcases hname with hname | hname <;> rcases hname' with hname' | hname' <;> rw [hname, hname']
  · exact absurd (hchar hmem' hname' hlength') (hrepeat hmem hname hlength)
  · exact absurd (hchar hmem hname hlength) (hrepeat hmem' hname' hlength')

/-- A mode with rules is one of the three. -/
theorem mode_of_isLongest (h : Lexicon.table = .ok table) {text : List Char} {count : Nat}
    (hlongest : IsLongest (table.rulesInMode mode) text count) :
    mode = defaultMode ∨ mode = Lexicon.regexMode ∨ mode = Lexicon.codeMode := by
  obtain ⟨rule, hrule, -⟩ := hlongest.attained
  obtain ⟨hmem, hmode⟩ := List.mem_filter.1 hrule
  obtain ⟨spec, hspec, -, heq, -⟩ := Lexicon.spec_of_mem h hmem
  have hmodes : ∀ spec ∈ Lexicon.rules,
      spec.mode = defaultMode ∨ spec.mode = Lexicon.regexMode ∨ spec.mode = Lexicon.codeMode := by
    decide
  rw [← show rule.mode = mode by simpa using hmode, heq]
  exact hmodes spec hspec

/-- One rule at most attains the longest match, but for the keyword, which is a name as well. -/
theorem names_tied (h : Lexicon.table = .ok table) {text : List Char} {count : Nat}
    (hlongest : IsLongest (table.rulesInMode mode) text count) :
    (tied (table.rulesInMode mode) text count).length ≤ 1 ∨
      mode = defaultMode ∧ text.take count = Lexicon.keyword.toList ∧
        (tied (table.rulesInMode mode) text count).map Rule.name = [Lexicon.keyword, ident] := by
  cases text with
  | nil => exact absurd hlongest.bounds (by simp; omega)
  | cons c cs =>
    rcases mode_of_isLongest h hlongest with rfl | rfl | rfl
    · by_cases hslash : c = '/'
      · subst hslash
        exact .inl (length_tied_slash h hlongest)
      by_cases hstart : isNameStart c = true
      · obtain ⟨hnames, htake⟩ := names_tied_of_wins hlongest (wins_takeWhile h hstart cs)
          (by rw [List.cons_append, List.takeWhile_append_dropWhile])
        rw [htake, hnames, namesOfName]
        split
        · exact .inr ⟨rfl, ‹_›, rfl⟩
        · rw [namesOfName, if_neg ‹_›] at hnames
          have hlength := congrArg List.length hnames
          rw [List.length_map] at hlength
          exact .inl hlength.le
      · exact .inl (length_tied_of_starters h (by decide)
          fun _ hname _ hother =>
            Lexicon.exclusive_main hslash (Bool.eq_false_iff.2 hstart) hname hother)
    · by_cases hbrace : c = '\x7b'
      · subst hbrace
        exact .inl (length_tied_brace h)
      · exact .inl (length_tied_of_starters h (by decide)
          fun _ hname _ hother => Lexicon.exclusive_regex hbrace hname hother)
    · obtain ⟨name, front, htext, hword, -⟩ := exists_codeWord h c cs
      have hlength := congrArg List.length (names_tied_of_wins hlongest hword.toWins htext).1
      rw [List.length_map] at hlength
      exact .inl hlength.le

/-! ## Texts that no rule matches -/

/-- Inside code some rule always matches. -/
theorem exists_longest_code (h : Lexicon.table = .ok table) {text : List Char} (hne : text ≠ []) :
    ∃ count, IsLongest (table.rulesInMode Lexicon.codeMode) text count := by
  obtain ⟨c, cs, rfl⟩ := List.exists_cons_of_ne_nil hne
  obtain ⟨name, front, htext, hword, -⟩ := exists_codeWord h c cs
  exact ⟨_, htext ▸ hword.longest⟩

/-- What an expression leaves of a text is an end of it. -/
theorem suffix_of_first? {expr : Regex.Expr} (h : expr.textual = true) {text rest : List Char}
    (hfirst : expr.first? text = some rest) : rest <:+ text := by
  have hends := Regex.head?_rel (Regex.Expr.ends_rests h (Regex.Spot.inner_start text))
  rw [Regex.Spot.rest_start, show (expr.rests text).head? = some rest from hfirst] at hends
  generalize (expr.ends (.start text)).head? = stop at hends
  cases hends with
  | @some spot _ hspot =>
    obtain ⟨front, htext, -⟩ := spot.split
    exact ⟨front, by rw [← hspot.2, ← htext]⟩

/-- A rule matches where its pattern leaves less than the text. -/
theorem exists_matchLength? (h : Lexicon.table = .ok table) {name : String}
    (hname : name ∈ Lexicon.namesOf mode) (hrepeat : name ≠ regexRepeat) {c : Char}
    {cs rest : List Char} (hfirst : (Lexicon.bodyOf name).first? (c :: cs) = some rest)
    (hrest : rest <:+ cs) : ∃ rule ∈ table.rulesInMode mode, rule.matchLength? (c :: cs) ≠ none := by
  rw [← Lexicon.names_rulesInMode h] at hname
  obtain ⟨rule, hrule, rfl⟩ := List.mem_map.1 hname
  refine ⟨rule, hrule, ?_⟩
  have hlength := hrest.length_le
  rw [Lexicon.matchLength?_eq h (List.mem_of_mem_filter hrule) hrepeat, Regex.Expr.takes?, hfirst]
  simp only [List.length_cons]
  rw [if_neg (by omega)]
  simp

/-- The characters that are signs of regular expressions by themselves. -/
def regexSignChars : List Char := "/|()[]-*+?^$.".toList

/-- Any character is a sign of regular expressions, starts an escape or stands for itself. -/
theorem exists_first?_regex {c : Char} (hescape : c ≠ '\\') (cs : List Char) :
    ∃ name ∈ Lexicon.namesOf Lexicon.regexMode, name ≠ regexRepeat ∧
      (Lexicon.bodyOf name).first? (c :: cs) = some cs := by
  by_cases hsign : c ∈ regexSignChars
  · have hsigns : ∀ c ∈ regexSignChars, String.singleton c ∈ Lexicon.namesOf Lexicon.regexMode ∧
        String.singleton c ≠ regexRepeat ∧
        Lexicon.bodyOf (String.singleton c) = .text [.char c] :=
      List.all_iff_forall_prop.1 (by decide)
    obtain ⟨hname, hrepeat, hbody⟩ := hsigns c hsign
    exact ⟨_, hname, hrepeat, by rw [Lexicon.first?_sign hbody, if_pos rfl]⟩
  · refine ⟨regexChar, by decide, by decide, ?_⟩
    have hcontains : (Lexicon.bodyOf regexChar).mayStart c = true := by
      by_cases hascii : c.toNat < 128
      · exact Lexicon.of_ascii (P := fun c => c ≠ '\\' → c ∉ regexSignChars →
          (Lexicon.bodyOf regexChar).mayStart c = true) (by decide +kernel) hascii hescape hsign
      · have hle := Lexicon.toNat_le c
        rw [show Lexicon.bodyOf regexChar = .char _ from rfl, Regex.Expr.mayStart]
        simp only [Unicode.Ranges.contains_cons, Unicode.Ranges.contains_nil, Bool.or_false]
        grind
    rw [show Lexicon.bodyOf regexChar = .char _ from rfl, Regex.Expr.mayStart] at hcontains
    rw [show Lexicon.bodyOf regexChar = .char _ from rfl, Regex.Expr.first?_char_cons,
      if_pos hcontains]

/-- Inside a regular expression, no rule matches only a backslash that the text ends with. -/
theorem unmatched_regex_iff (h : Lexicon.table = .ok table) {text : List Char} (hne : text ≠ []) :
    (∀ rule ∈ table.rulesInMode Lexicon.regexMode, rule.matchLength? text = none) ↔
      text = ['\\'] := by
  constructor
  · intro hunmatched
    obtain ⟨c, cs, rfl⟩ := List.exists_cons_of_ne_nil hne
    by_contra hother
    obtain ⟨rule, hrule, hmatch⟩ : ∃ rule ∈ table.rulesInMode Lexicon.regexMode,
        rule.matchLength? (c :: cs) ≠ none := by
      by_cases hc : c = '\\'
      · subst hc
        obtain ⟨d, ds, rfl⟩ : ∃ d ds, cs = d :: ds :=
          List.exists_cons_of_ne_nil fun heq => hother (by rw [heq])
        -- An escape takes the next character at least.
        have hsome : ((Lexicon.bodyOf regexEscape).first? ('\\' :: d :: ds)).isSome = true := by
          rw [Lexicon.first?_escape]
          simp
        obtain ⟨rest, hfirst⟩ := Option.isSome_iff_exists.1 hsome
        refine exists_matchLength? h (by decide) (by decide) hfirst ?_
        have hslash : Regex.Letter.behind? ("\\".toList.map .char) ('\\' :: d :: ds) =
            some (d :: ds) := (Regex.Letter.behind?_eq_some_iff ['\\']).2 rfl
        rw [Lexicon.bodyOf_regexEscape, Lexicon.first?_textOf_seq, hslash, Option.bind_some] at hfirst
        exact suffix_of_first? (by decide) hfirst
      · obtain ⟨name, hname, hrepeat, hfirst⟩ := exists_first?_regex hc cs
        exact exists_matchLength? h hname hrepeat hfirst (List.suffix_refl cs)
    exact hmatch (hunmatched rule hrule)
  · rintro rfl rule hrule
    by_contra hmatch
    obtain ⟨count, hlength⟩ := Option.ne_none_iff_exists'.1 hmatch
    have hmem := List.mem_of_mem_filter hrule
    have hname := mem_starters_of_mem_tied h (List.mem_filter.2 ⟨hrule, by simpa using hlength⟩)
    rw [show Lexicon.startersOf Lexicon.regexMode '\\' = [regexEscape] by decide,
      List.mem_singleton] at hname
    have hnone : (Lexicon.bodyOf regexEscape).first? ['\\'] = none := by
      rw [Lexicon.first?_escape]
      decide
    rw [Lexicon.matchLength?_eq h hmem (by rw [hname]; decide), hname, Regex.Expr.takes?, hnone]
      at hlength
    contradiction

end GrammarLang.Grammar

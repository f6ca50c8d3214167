import GrammarLang.Grammar.Render
import GrammarLang.Proofs.Grammar.Gaps
import Mathlib.Data.Bool.AllAny
import Mathlib.Data.List.TakeWhile

/-! # What the first character of a word tells

Most words of the notation proper are told by their first character. **`lead`** is that of the first
word of a text, and a rule that is **`ToldBy`** some characters attains the longest match behind the
gap just if the text leads with one of them. The words themselves are given by **`word_sign`**,
**`word_name`** and the like. -/

namespace GrammarLang.Grammar

open GrammarLang.Scan GrammarLang.Text

open Lexicon (ident number string)

variable {table : RuleTable}

/-- The first character behind the gap at the start of a text. -/
def lead (text : List Char) : Option Char := (behindGap text).head?

@[simp] theorem lead_space (cs : List Char) : lead (' ' :: cs) = lead cs := by
  rw [lead, behindGap_space, lead]

@[simp] theorem lead_newline (cs : List Char) : lead ('\n' :: cs) = lead cs := by
  rw [lead, behindGap_newline, lead]

/-- Signs of one character that no other sign starts with. -/
def signChars : List Char :=
  ['\x7b', '\x7d', ')', '|', ':', ';', '=', '~', '?', '*', '+', ',']

/-- The first character of a name. -/
def isNameStart (c : Char) : Bool := Lexicon.nameStarts.contains c.toNat

/-- A character of a name. -/
def isNameChar (c : Char) : Bool := Lexicon.nameChars.contains c.toNat

/-- A decimal digit. -/
def isDigit (c : Char) : Bool := Lexicon.digits.contains c.toNat

theorem isNameChar_of_isNameStart {c : Char} (h : isNameStart c = true) : isNameChar c = true := by
  simp only [isNameStart, isNameChar, Lexicon.nameStarts, Lexicon.nameChars,
    Unicode.Ranges.contains_cons, Unicode.Ranges.contains_nil] at h ⊢
  grind

theorem isNameChar_of_isDigit {c : Char} (h : isDigit c = true) : isNameChar c = true := by
  simp only [isDigit, isNameChar, Lexicon.digits, Lexicon.nameChars,
    Unicode.Ranges.contains_cons, Unicode.Ranges.contains_nil] at h ⊢
  grind

/-- A number goes as far as its digits. -/
theorem Lexicon.first?_number (c : Char) (cs : List Char) :
    (Lexicon.bodyOf number).first? (c :: cs) =
      if isDigit c then some (cs.dropWhile isDigit) else none :=
  Regex.Expr.first?_loop_one (fun _ => rfl) c cs

/-! ## Rules by the first character -/

theorem bodyOf_sign {c : Char} (hc : c ∈ signChars) :
    Lexicon.bodyOf (String.singleton c) = .text [.char c] := by
  have hall : ∀ c ∈ signChars, Lexicon.bodyOf (String.singleton c) = .text [.char c] :=
    List.all_iff_forall_prop.1 (by decide)
  exact hall c hc

/-- The rules that match where a text starts with one of the first 128 characters, looked up for all
of them at once. -/
theorem startersOf_ascii : ∀ n < 128,
    (Char.ofNat n ∈ signChars →
      Lexicon.startersOf defaultMode (Char.ofNat n) = [String.singleton (Char.ofNat n)]) ∧
    (isNameStart (Char.ofNat n) = true → Lexicon.startersOf defaultMode (Char.ofNat n) =
      if Char.ofNat n = 'g' then [Lexicon.keyword, ident] else [ident]) ∧
    (isDigit (Char.ofNat n) = true → Lexicon.startersOf defaultMode (Char.ofNat n) = [number]) ∧
    (Char.ofNat n = '\"' ∨ Char.ofNat n = '\'' →
      Lexicon.startersOf defaultMode (Char.ofNat n) = [string]) ∧
    (Char.ofNat n = '(' →
      Lexicon.startersOf defaultMode (Char.ofNat n) = ["(", "(?=", "(?!"]) := by
  decide +kernel

theorem startersOf_sign {c : Char} (hc : c ∈ signChars) :
    Lexicon.startersOf defaultMode c = [String.singleton c] := by
  have hascii : ∀ c ∈ signChars, c.toNat < 128 := List.all_iff_forall_prop.1 (by decide)
  have hall := (startersOf_ascii _ (hascii c hc)).1
  rw [Char.ofNat_toNat] at hall
  exact hall hc

theorem startersOf_nameStart {c : Char} (hc : isNameStart c = true) :
    Lexicon.startersOf defaultMode c = if c = 'g' then [Lexicon.keyword, ident] else [ident] := by
  have hall := (startersOf_ascii _ (Unicode.Ranges.lt_of_contains (by decide) hc)).2.1
  rw [Char.ofNat_toNat] at hall
  exact hall hc

theorem startersOf_digit {c : Char} (hc : isDigit c = true) :
    Lexicon.startersOf defaultMode c = [number] := by
  have hall := (startersOf_ascii _ (Unicode.Ranges.lt_of_contains (by decide) hc)).2.2.1
  rw [Char.ofNat_toNat] at hall
  exact hall hc

theorem startersOf_quote {c : Char} (hc : c = '\"' ∨ c = '\'') :
    Lexicon.startersOf defaultMode c = [string] := by
  have hascii : c.toNat < 128 := by obtain rfl | rfl := hc <;> decide
  have hall := (startersOf_ascii _ hascii).2.2.2.1
  rw [Char.ofNat_toNat] at hall
  exact hall hc

theorem startersOf_opening : Lexicon.startersOf defaultMode '(' = ["(", "(?=", "(?!"] :=
  have hascii : '('.toNat < 128 := by decide
  (startersOf_ascii _ hascii).2.2.2.2 rfl

/-- A rule attains the longest match where that starts with some characters, and nowhere else. -/
structure ToldBy (name : String) (told : Char → Bool) : Prop where
  /-- It matches nothing else. -/
  starts : ∀ c, (Lexicon.bodyOf name).mayStart c = true → told c = true
  /-- No other rule that keeps its matches matches these. -/
  only : ∀ c, told c = true → ∀ other ∈ Lexicon.startersOf defaultMode c,
    other ∈ Lexicon.ignoredNames ∨ other = name

namespace ToldBy

variable {name : String} {told : Char → Bool}

/-- A rule that is told by the first character attains the longest match just if that is one of
those. -/
theorem tied_iff (htold : ToldBy name told) (h : Lexicon.table = .ok table) {c : Char}
    {cs : List Char} {count : Nat} (hsolid : behindGap (c :: cs) = c :: cs)
    (hlongest : IsLongest (table.rulesInMode defaultMode) (c :: cs) count) :
    (∃ rule ∈ tied (table.rulesInMode defaultMode) (c :: cs) count, rule.name = name) ↔
      told c = true := by
  constructor
  · rintro ⟨rule, hrule, rfl⟩
    obtain ⟨hmem, hcount⟩ := List.mem_filter.1 hrule
    exact htold.starts c (Lexicon.mayStart_of_matchLength? h (List.mem_filter.1 hmem).1
      (of_decide_eq_true hcount))
  · intro hc
    obtain ⟨rule, hrule⟩ := List.exists_mem_of_ne_nil _ hlongest.tied_ne_nil
    obtain ⟨hmem, hcount⟩ := List.mem_filter.1 hrule
    have hcount := of_decide_eq_true hcount
    have hmemTable := (List.mem_filter.1 hmem).1
    have hstarter : rule.name ∈ Lexicon.startersOf defaultMode c := by
      refine List.mem_filter.2 ⟨?_, Lexicon.mayStart_of_matchLength? h hmemTable hcount⟩
      rw [← Lexicon.names_rulesInMode h]
      exact List.mem_map.2 ⟨rule, hmem, rfl⟩
    refine ⟨rule, hrule, (htold.only c hc _ hstarter).resolve_left fun hignored => ?_⟩
    rw [← Lexicon.ignored_iff h hmemTable, kept_of_behindGap h hsolid hmemTable hcount] at hignored
    contradiction

theorem sign {c : Char} (hc : c ∈ signChars) : ToldBy (String.singleton c) (· = c) := by
  constructor
  · intro d hd
    rw [bodyOf_sign hc] at hd
    have hd : c = d := by simpa [Regex.Expr.mayStart] using hd
    simp [hd]
  · intro d hd other hother
    rw [of_decide_eq_true hd, startersOf_sign hc] at hother
    exact .inr (List.mem_singleton.1 hother)

theorem equals : ToldBy "=" (· = '=') :=
  have hsign : '=' ∈ signChars := by decide
  sign hsign

theorem slash : ToldBy "/" (· = '/') := by
  have hbody : Lexicon.bodyOf "/" = .text [.char '/'] := rfl
  constructor
  · intro c hc
    rw [hbody] at hc
    have hc : '/' = c := by simpa [Regex.Expr.mayStart] using hc
    simp [← hc]
  · intro c hc other hother
    rw [of_decide_eq_true hc, Lexicon.startersOf_slash] at hother
    revert other
    decide

theorem number : ToldBy Lexicon.number isDigit where
  starts c hc := hc
  only c hc other hother := by
    rw [startersOf_digit hc] at hother
    exact .inr (List.mem_singleton.1 hother)

theorem string : ToldBy Lexicon.string (fun c => c = '\"' ∨ c = '\'') := by
  constructor
  · intro c hc
    have hdouble : (Lexicon.quoted "\"" Lexicon.doubleQuoted).mayStart c = decide (c = '\"') := by
      simp [Lexicon.quoted, Lexicon.textOf, Regex.Expr.mayStart, eq_comm]
    have hsingle : (Lexicon.quoted "'" Lexicon.singleQuoted).mayStart c = decide (c = '\'') := by
      simp [Lexicon.quoted, Lexicon.textOf, Regex.Expr.mayStart, eq_comm]
    rw [show Lexicon.bodyOf Lexicon.string = .alt (Lexicon.quoted "\"" Lexicon.doubleQuoted)
      (Lexicon.quoted "'" Lexicon.singleQuoted) from rfl, Regex.Expr.mayStart, hdouble, hsingle] at hc
    simpa using hc
  · intro c hc other hother
    rw [startersOf_quote (of_decide_eq_true hc)] at hother
    exact .inr (List.mem_singleton.1 hother)

end ToldBy

/-! ## Signs -/

theorem word_sign (h : Lexicon.table = .ok table) {c : Char} (hc : c ∈ signChars)
    (cs : List Char) : Word table defaultMode [String.singleton c] [c] cs := by
  have hall : ∀ c ∈ signChars, String.singleton c ∉ Lexicon.ignoredNames ∧
      String.singleton c ≠ Lexicon.regexRepeat ∧ String.singleton c ≠ number ∧
      String.singleton c ≠ string := List.all_iff_forall_prop.1 (by decide)
  obtain ⟨hkept, hrepeat, hplain⟩ := hall c hc
  refine .of_wins (.of_starters h (startersOf_sign hc) (List.nil_append cs) ?_ ?_ (by simp) ?_ ?_)
    ?_ ?_
  · simpa using hrepeat.symm
  · simp
  · intro name hname
    rw [List.mem_singleton.1 hname, Lexicon.first?_sign (bodyOf_sign hc), if_pos rfl]
  · intro name hname hother
    exact absurd hname hother
  · intro name hname
    rwa [List.mem_singleton.1 hname]
  · intro name hname
    rwa [List.mem_singleton.1 hname]

/-- A slash is a word of its own unless it opens a comment. -/
theorem word_slash (h : Lexicon.table = .ok table) {c : Char} (hline : c ≠ '/') (hblock : c ≠ '*')
    (cs : List Char) : Word table defaultMode ["/"] ['/'] (c :: cs) := by
  refine .of_wins (.of_starters h Lexicon.startersOf_slash (List.nil_append _) (by decide) (by decide)
    (by simp) ?_ ?_) (by decide) (by decide)
  · intro name hname
    rw [List.mem_singleton.1 hname, Lexicon.first?_sign (c := '/') rfl, if_pos rfl]
  · intro name hname hother other hfirst
    simp only [List.mem_cons, List.not_mem_nil, or_false] at hname
    obtain rfl | rfl | rfl := hname
    · rw [Lexicon.first?_line_comment] at hfirst
      simp [Regex.Letter.behind?_cons_cons, hline] at hfirst
    · rw [Lexicon.first?_block_comment] at hfirst
      simp [Regex.Letter.behind?_cons_cons, hblock] at hfirst
    · exact absurd (List.mem_singleton_self _) hother

/-- The opening of a group is a word, as a blank stands behind it. -/
theorem word_opening (h : Lexicon.table = .ok table) (kind : GroupKind) (cs : List Char) :
    Word table defaultMode [kind.opening] kind.opening.toList (' ' :: cs) := by
  have hbody : ∀ name ∈ ["(", "(?=", "(?!"], ∀ text, (Lexicon.bodyOf name).first? text =
      Regex.Letter.behind? (name.toList.map .char) text := by
    intro name hname text
    have heq : Lexicon.bodyOf name = Lexicon.textOf name := by
      revert name
      decide
    rw [heq, Lexicon.first?_textOf]
  have hopening : kind.opening ∈ ["(", "(?=", "(?!"] := by cases kind <;> decide
  obtain ⟨front, hfront, hkind⟩ : ∃ front, kind.opening.toList = '(' :: front ∧
      (kind = .plain ∧ front = [] ∨ kind = .ahead ∧ front = ['?', '='] ∨
        kind = .notAhead ∧ front = ['?', '!']) := by
    cases kind with
    | plain => exact ⟨[], by decide, .inl ⟨rfl, rfl⟩⟩
    | ahead => exact ⟨['?', '='], by decide, .inr (.inl ⟨rfl, rfl⟩)⟩
    | notAhead => exact ⟨['?', '!'], by decide, .inr (.inr ⟨rfl, rfl⟩)⟩
  rw [hfront]
  refine .of_wins (.of_starters h startersOf_opening rfl (by decide) ?_ (by simp) ?_ ?_) ?_ ?_
  · cases kind <;> decide
  · intro name hname
    rw [List.mem_singleton.1 hname, hbody _ hopening, Regex.Letter.behind?_eq_some_iff, hfront]
    rfl
  · intro name hname hother other hfirst
    rw [hbody name hname, Regex.Letter.behind?_eq_some_iff] at hfirst
    simp only [List.mem_cons, List.not_mem_nil, or_false] at hname hother
    -- No opening goes on as another one does, and only the plain one is shorter.
    obtain ⟨rfl, rfl⟩ | ⟨rfl, rfl⟩ | ⟨rfl, rfl⟩ := hkind <;> obtain rfl | rfl | rfl := hname <;>
      simp [GroupKind.opening] at hfirst hother <;> simp [← hfirst]
  · cases kind <;> decide
  · cases kind <;> decide

/-! ## Names and literals -/

/-- A text that can be a name. -/
def IsName (text : List Char) : Prop :=
  ∃ c cs, text = c :: cs ∧ isNameStart c = true ∧ ∀ d ∈ cs, isNameChar d = true

/-- A text does not go on with a character of a name, so that it can stand behind one. -/
def Apart (text : List Char) : Prop := ∀ c ∈ text.head?, isNameChar c = false

theorem apart_cons {c : Char} (hc : isNameChar c = false) (cs : List Char) : Apart (c :: cs) := by
  rintro d ⟨⟩
  exact hc

theorem dropWhile_append_of_apart {keep : Char → Bool} {cs rest : List Char}
    (hcs : ∀ c ∈ cs, keep c = true) (hrest : ∀ c ∈ rest.head?, keep c = false) :
    (cs ++ rest).dropWhile keep = rest := by
  rw [List.dropWhile_append_of_pos hcs]
  cases rest with
  | nil => rfl
  | cons c rest => rw [List.dropWhile_cons_of_neg (by simp [hrest c rfl])]

/-- What the pattern of a name matches. -/
theorem first?_ident {c : Char} {cs rest : List Char} (hc : isNameStart c = true)
    (hcs : ∀ d ∈ cs, isNameChar d = true) (hrest : Apart rest) :
    (Lexicon.bodyOf ident).first? (c :: (cs ++ rest)) = some rest := by
  have hloop : (Lexicon.loopOf Lexicon.nameChars 0).first? (cs ++ rest) =
      some ((cs ++ rest).dropWhile isNameChar) := Regex.Expr.first?_loop (fun _ => rfl) _
  rw [show Lexicon.bodyOf ident =
      .seq (.char Lexicon.nameStarts) (Lexicon.loopOf Lexicon.nameChars 0) from rfl,
    Regex.Expr.first?_seq, Regex.Expr.rests_char_cons,
    if_pos (show Lexicon.nameStarts.contains c.toNat = true from hc), List.findSome?_singleton,
    hloop, dropWhile_append_of_apart hcs hrest]

/-- The names of the rules that make tokens of a name: the keyword is a name too. -/
def namesOfName (text : List Char) : List String :=
  if text = Lexicon.keyword.toList then [Lexicon.keyword, ident] else [ident]

/-- A shorter word cannot end inside a name. -/
theorem length_lt_of_append_eq {text word rest other : List Char} (hne : text ≠ word)
    (hword : ∀ c ∈ word, isNameChar c = true) (hrest : Apart rest)
    (heq : text ++ rest = word ++ other) : rest.length < other.length := by
  rcases List.append_eq_append_iff.1 heq with ⟨further, rfl, rfl⟩ | ⟨further, rfl, rfl⟩
  · cases further with
    | nil => simp at hne
    | cons c further =>
      have hc := hword c (by simp)
      rw [hrest c rfl] at hc
      contradiction
  · have hfurther : further ≠ [] := by
      rintro rfl
      simp at hne
    have hpos := List.length_pos_iff.2 hfurther
    rw [List.length_append]
    omega

/-- A name that nothing continues is the longest match. -/
theorem wins_name (h : Lexicon.table = .ok table) {text rest : List Char} (htext : IsName text)
    (hrest : Apart rest) : Wins table defaultMode (namesOfName text) text rest := by
  obtain ⟨c, cs, rfl, hc, hcs⟩ := htext
  have hident := first?_ident hc hcs hrest
  have hkeyword (other : List Char) : (Lexicon.bodyOf Lexicon.keyword).first? (c :: (cs ++ rest)) =
      some other ↔ c :: cs ++ rest = Lexicon.keyword.toList ++ other := by
    rw [show Lexicon.bodyOf Lexicon.keyword = Lexicon.textOf Lexicon.keyword from rfl,
      Lexicon.first?_textOf, Regex.Letter.behind?_eq_some_iff]
    rfl
  by_cases heq : c :: cs = Lexicon.keyword.toList
  · have hg : c = 'g' := (List.cons.inj heq).1
    have hstarters := startersOf_nameStart hc
    rw [if_pos hg] at hstarters
    rw [namesOfName, if_pos heq]
    refine .of_starters h hstarters rfl (by decide) (by decide) (by simp) ?_ ?_
    · intro name hname
      rcases List.mem_cons.1 hname with rfl | hname
      · rw [hkeyword, heq]
      · rwa [List.mem_singleton.1 hname]
    · intro name hname hother
      exact absurd hname hother
  · rw [namesOfName, if_neg heq]
    refine .of_starters h (startersOf_nameStart hc) rfl ?_ ?_ (by simp) ?_ ?_
    · split <;> decide
    · split <;> decide
    · intro name hname
      rwa [List.mem_singleton.1 hname]
    · intro name hname hother other hfirst
      have hname : name = Lexicon.keyword := by
        split at hname
        · rcases List.mem_cons.1 hname with rfl | hname
          · rfl
          · exact absurd hname hother
        · exact absurd hname hother
      rw [hname, hkeyword] at hfirst
      exact length_lt_of_append_eq heq (List.all_iff_forall_prop.1 (by decide)) hrest hfirst

theorem apart_dropWhile (text : List Char) : Apart (text.dropWhile isNameChar) := by
  intro c hc
  have hnot := List.head?_dropWhile_not isNameChar text
  rwa [Option.mem_def.1 hc] at hnot

/-- Where a text starts as a name does, the longest match goes as far as the characters of names. -/
theorem wins_takeWhile (h : Lexicon.table = .ok table) {c : Char} (hc : isNameStart c = true)
    (cs : List Char) :
    Wins table defaultMode (namesOfName (c :: cs.takeWhile isNameChar))
      (c :: cs.takeWhile isNameChar) (cs.dropWhile isNameChar) :=
  wins_name h ⟨c, _, rfl, hc, fun _ => List.mem_takeWhile_imp⟩ (apart_dropWhile cs)

theorem ident_mem_namesOfName (text : List Char) : ident ∈ namesOfName text := by
  rw [namesOfName]
  split <;> decide

theorem word_name (h : Lexicon.table = .ok table) {text rest : List Char} (htext : IsName text)
    (hrest : Apart rest) : Word table defaultMode (namesOfName text) text rest := by
  refine .of_wins (wins_name h htext hrest) ?_ ?_
  all_goals
    rw [namesOfName]
    split <;> decide

/-- Digits that stand for a number and that nothing continues are a word. -/
theorem word_number (h : Lexicon.table = .ok table) {c : Char} {cs rest : List Char}
    (hc : isDigit c = true) (hcs : ∀ d ∈ cs, isDigit d = true) (hrest : Apart rest)
    (hvalue : ∃ value, numberValue (String.ofList (c :: cs)) = .ok value) :
    Word table defaultMode [number] (c :: cs) rest := by
  have hapart : ∀ d ∈ rest.head?, isDigit d = false := by
    intro d hd
    by_contra hdigit
    have hname := isNameChar_of_isDigit ((Bool.not_eq_false _).mp hdigit)
    rw [hrest d hd] at hname
    contradiction
  refine ⟨.of_starters h (startersOf_digit hc) rfl (by decide) (by decide) (by simp) ?_ ?_,
    by decide, ?_⟩
  · intro name hname
    rw [List.mem_singleton.1 hname, Lexicon.first?_number, if_pos hc,
      dropWhile_append_of_apart hcs hapart]
  · intro name hname hother
    exact absurd hname hother
  · intro name hname decoder hdecoder
    rw [List.mem_singleton.1 hname] at hdecoder
    cases hdecoder
    exact hvalue

/-- A double-quoted literal that stands for a text is a word up to its closing quote. -/
theorem word_string (h : Lexicon.table = .ok table) {front rest : List Char}
    (hend : stringEnd? '\"' (front ++ rest) = some rest)
    (hvalue : ∃ value, stringValue (String.ofList ('\"' :: front)) = .ok value) :
    Word table defaultMode [string] ('\"' :: front) rest := by
  refine ⟨.of_starters h (startersOf_quote (.inl rfl)) rfl (by decide) (by decide) (by simp) ?_ ?_,
    by decide, ?_⟩
  · intro name hname
    rw [List.mem_singleton.1 hname, Lexicon.first?_string]
    simp [Regex.Letter.behind?, hend]
  · intro name hname hother
    exact absurd hname hother
  · intro name hname decoder hdecoder
    rw [List.mem_singleton.1 hname] at hdecoder
    cases hdecoder
    exact hvalue

end GrammarLang.Grammar

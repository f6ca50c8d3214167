import GrammarLang.Proofs.Grammar.Gaps

/-! # Words inside code

Inside code every text starts with a word: a brace, a stretch of code, a string, a character literal
or a comment, or else a quote or a slash that opens nothing. **`exists_codeWord`** gives that word,
and says that **`codeEnd`** goes on behind it as the parser does. -/

namespace GrammarLang.Grammar

open GrammarLang.Scan GrammarLang.Text

variable {table : RuleTable}

/-- A character that means nothing in code. -/
def isCodeChar (c : Char) : Bool := Lexicon.codeChars.contains c.toNat

theorem isCodeChar_eq (c : Char) : isCodeChar c =
    (c ≠ '\"' && c ≠ '\'' && c ≠ '/' && c ≠ '\x7b' && c ≠ '\x7d' : Bool) :=
  Lexicon.codeChars_contains c

/-! ## The brace that closes code -/

theorem codeEnd_opening (depth : Nat) (cs : List Char) :
    codeEnd depth ('\x7b' :: cs) = codeEnd (depth + 1) cs := by
  rw [codeEnd]

theorem codeEnd_closing (cs : List Char) : codeEnd 0 ('\x7d' :: cs) = some cs := by
  rw [codeEnd]

theorem codeEnd_closing_succ (depth : Nat) (cs : List Char) :
    codeEnd (depth + 1) ('\x7d' :: cs) = codeEnd depth cs := by
  rw [codeEnd]

/-- Behind a character that is no brace, code goes on behind all that it opens. -/
theorem codeEnd_cons {c : Char} (hopening : c ≠ '\x7b') (hclosing : c ≠ '\x7d') (depth : Nat)
    (cs : List Char) : codeEnd depth (c :: cs) = codeEnd depth (codeRest (c :: cs)) := by
  rw [codeEnd]
  · exact hopening
  · exact hclosing

/-- A character that means nothing is passed alone. -/
theorem codeEnd_codeChar {c : Char} (hc : isCodeChar c = true) (depth : Nat) (cs : List Char) :
    codeEnd depth (c :: cs) = codeEnd depth cs := by
  rw [isCodeChar_eq] at hc
  simp only [Bool.and_eq_true, decide_eq_true_eq] at hc
  obtain ⟨⟨⟨⟨hdouble, hsingle⟩, hslash⟩, hopening⟩, hclosing⟩ := hc
  rw [codeEnd_cons hopening hclosing, codeRest.eq_def]
  split
  · rename_i heq; exact absurd (List.cons.inj heq).1 hdouble
  · rename_i heq; exact absurd (List.cons.inj heq).1 hsingle
  · rename_i heq; exact absurd (List.cons.inj heq).1 hslash
  · rename_i heq; exact absurd (List.cons.inj heq).1 hslash
  · rename_i heq; rw [(List.cons.inj heq).2]
  · contradiction

theorem codeEnd_dropWhile (depth : Nat) (cs : List Char) :
    codeEnd depth (cs.dropWhile isCodeChar) = codeEnd depth cs := by
  induction cs with
  | nil => rfl
  | cons c cs ih =>
    by_cases hc : isCodeChar c = true
    · rw [List.dropWhile_cons_of_pos hc, ih, codeEnd_codeChar hc]
    · rw [List.dropWhile_cons_of_neg hc]

/-- Characters that mean nothing are closed by the next brace. -/
theorem closesAlways_of_codeChars {code : List Char} (h : ∀ c ∈ code, isCodeChar c = true) :
    ClosesAlways code := by
  intro behind
  induction code with
  | nil => exact codeEnd_closing behind
  | cons c code ih =>
    rw [Closes, List.cons_append, codeEnd_codeChar (h c List.mem_cons_self)]
    exact ih fun d hd => h d (List.mem_cons_of_mem c hd)

/-! ## The words -/

namespace Lexicon

theorem startersOf_codeChar {c : Char} (hc : isCodeChar c = true) :
    startersOf codeMode c = ["code_text"] := by
  by_cases hascii : c.toNat < 128
  · refine of_ascii (P := fun c => isCodeChar c = true →
      startersOf codeMode c = ["code_text"]) ?_ hascii hc
    decide
  · have hnames : ((namesOf codeMode).filter fun name => ¬ (bodyOf name).startsBelow 128) =
        ["code_text"] := by decide
    have hstart : (bodyOf "code_text").mayStart c = isCodeChar c := rfl
    rw [startersOf_eq hascii, hnames]
    simp [hstart, hc]

theorem first?_code_string (c : Char) (cs : List Char) :
    (bodyOf "code_string").first? (c :: cs) =
      if c = '\"' then stringEnd? '\"' cs else if c = '\'' then charEnd? cs else none := by
  rw [show bodyOf "code_string" = .alt (quoted "\"" doubleQuoted) charLiteral from rfl,
    Regex.Expr.first?_alt, first?_charLiteral,
    first?_quoted (show "\"".toList = ['\"'] from rfl) doubleQuoted_contains (by decide)]
  by_cases hdouble : c = '\"'
  · subst hdouble
    simp [Regex.Letter.behind?]
  · by_cases hsingle : c = '\''
    · subst hsingle
      simp [Regex.Letter.behind?]
    · simp [Regex.Letter.behind?, hdouble, hsingle]

theorem first?_code_quote (c : Char) (cs : List Char) :
    (bodyOf "code_quote").first? (c :: cs) =
      if c = '\"' ∨ c = '\'' then some cs else none := by
  have hset : Unicode.Ranges.contains [(34, 34), (39, 39)] c.toNat = true ↔ c = '\"' ∨ c = '\'' := by
    rw [← Char.toNat_inj, ← Char.toNat_inj, show '\"'.toNat = 34 from rfl,
      show '\''.toNat = 39 from rfl]
    simp only [Unicode.Ranges.contains_cons, Unicode.Ranges.contains_nil, Bool.or_false]
    grind
  rw [show bodyOf "code_quote" = .char [(34, 34), (39, 39)] from rfl, Regex.Expr.first?_char_cons]
  simp only [hset]

theorem first?_code_comment (text : List Char) :
    (bodyOf "code_comment").first? text = (lineComment.first? text).or (blockComment.first? text) :=
  Regex.Expr.first?_alt _ _ _

end Lexicon

/-- A rule that is the only one to match makes a word of what it matches. -/
theorem word_only (h : Lexicon.table = .ok table) {name : String} {c : Char}
    {front rest cs : List Char} (hstarters : Lexicon.startersOf Lexicon.codeMode c = [name])
    (htext : front ++ rest = cs) (hfirst : (Lexicon.bodyOf name).first? (c :: cs) = some rest)
    (hname : name ∈ ["\x7b", "\x7d", "code_text"]) :
    Word table Lexicon.codeMode [name] (c :: front) rest := by
  have hall : ∀ name ∈ ["\x7b", "\x7d", "code_text"], name ≠ Lexicon.regexRepeat ∧
      name ∉ Lexicon.ignoredNames ∧ name ≠ Lexicon.number ∧ name ≠ Lexicon.string := by decide
  obtain ⟨hrepeat, hkept, hplain⟩ := hall name hname
  refine .of_wins (.of_starters h hstarters htext ?_ (by simp) (by simp) ?_ ?_) ?_ ?_
  · simpa using hrepeat.symm
  · intro other hother
    rwa [List.mem_singleton.1 hother]
  · intro other hother hnot
    exact absurd hother hnot
  · intro other hother
    rwa [List.mem_singleton.1 hother]
  · intro other hother
    rwa [List.mem_singleton.1 hother]

/-- Of two rules that may match, the one that matches more makes a word, or the other one where it
does not match. -/
theorem word_codeMode (h : Lexicon.table = .ok table) {short long : String} {c : Char}
    {cs : List Char}
    (hstarters : Lexicon.startersOf Lexicon.codeMode c = [short, long] ∨
      Lexicon.startersOf Lexicon.codeMode c = [long, short])
    (hnames : (short = "/" ∧ long = "code_comment") ∨ (short = "code_quote" ∧ long = "code_string"))
    (hshort : (Lexicon.bodyOf short).first? (c :: cs) = some cs)
    (hlong : ∀ rest, (Lexicon.bodyOf long).first? (c :: cs) = some rest →
      rest <:+ cs ∧ rest.length < cs.length) :
    ∃ name front, c :: cs = front ++ ((Lexicon.bodyOf long).first? (c :: cs)).getD cs ∧
      name ≠ "\x7b" ∧ name ≠ "\x7d" ∧
      Word table Lexicon.codeMode [name] front
        (((Lexicon.bodyOf long).first? (c :: cs)).getD cs) := by
  have hall : short ≠ long ∧ short ≠ "\x7b" ∧ short ≠ "\x7d" ∧ long ≠ "\x7b" ∧ long ≠ "\x7d" ∧
      short ≠ Lexicon.regexRepeat ∧ long ≠ Lexicon.regexRepeat ∧
      short ∉ Lexicon.ignoredNames ∧ long ∉ Lexicon.ignoredNames ∧
      (short ≠ Lexicon.number ∧ short ≠ Lexicon.string) ∧
      long ≠ Lexicon.number ∧ long ≠ Lexicon.string := by
    obtain ⟨rfl, rfl⟩ | ⟨rfl, rfl⟩ := hnames <;> decide
  obtain ⟨hne, hshortOpens, hshortCloses, hlongOpens, hlongCloses, hshortRepeat, hlongRepeat,
    hshortKept, hlongKept, hshortPlain, hlongPlain⟩ := hall
  obtain ⟨starters, hstarters, hmem⟩ : ∃ starters,
      Lexicon.startersOf Lexicon.codeMode c = starters ∧
        (starters = [short, long] ∨ starters = [long, short]) :=
    ⟨_, rfl, hstarters⟩
  have hrepeat : Lexicon.regexRepeat ∉ starters := by
    rcases hmem with rfl | rfl <;> simp [hshortRepeat.symm, hlongRepeat.symm]
  cases hfirst : (Lexicon.bodyOf long).first? (c :: cs) with
  | none =>
    refine ⟨short, [c], rfl, hshortOpens, hshortCloses, .of_wins (.of_starters h hstarters
      (List.nil_append cs) hrepeat ?_ (by simp) ?_ ?_) (by simpa using hshortKept)
      (by simpa using hshortPlain)⟩
    · rcases hmem with rfl | rfl <;> simp [hne.symm]
    · simpa using hshort
    · intro name hname hother other hmatch
      have hname : name = long := by rcases hmem with rfl | rfl <;> simp_all
      rw [hname, hfirst] at hmatch
      contradiction
  | some rest =>
    obtain ⟨⟨front, rfl⟩, hlt⟩ := hlong rest hfirst
    refine ⟨long, c :: front, rfl, hlongOpens, hlongCloses, .of_wins (.of_starters h hstarters rfl
      hrepeat ?_ (by simp) ?_ ?_) (by simpa using hlongKept) (by simpa using hlongPlain)⟩
    · rcases hmem with rfl | rfl <;> simp [hne]
    · simpa using hfirst
    · intro name hname hother other hmatch
      have hname : name = short := by rcases hmem with rfl | rfl <;> simp_all
      rw [hname, Option.getD_some, hshort] at hmatch
      cases hmatch
      exact hlt

/-- The text behind the word that a character starts inside code. -/
def behindCodeWord (c : Char) (cs : List Char) : List Char :=
  if c = '\x7b' ∨ c = '\x7d' then cs
  else if isCodeChar c then cs.dropWhile isCodeChar
  else codeRest (c :: cs)

/-- The brace that closes code is found from behind every word that is no brace. -/
theorem codeEnd_behindCodeWord {c : Char} (hopening : c ≠ '\x7b') (hclosing : c ≠ '\x7d')
    (depth : Nat) (cs : List Char) :
    codeEnd depth (behindCodeWord c cs) = codeEnd depth (c :: cs) := by
  rw [behindCodeWord, if_neg (by simp [hopening, hclosing])]
  split
  · rename_i hc
    rw [codeEnd_dropWhile, codeEnd_codeChar hc]
  · rw [codeEnd_cons hopening hclosing]

/-- What the pattern of a comment matches is what `codeRest` leaves behind, behind a slash. -/
theorem codeRest_slash (cs : List Char) :
    codeRest ('/' :: cs) = ((Lexicon.bodyOf "code_comment").first? ('/' :: cs)).getD cs := by
  rw [Lexicon.first?_code_comment, Lexicon.first?_lineComment, Lexicon.first?_blockComment]
  cases cs with
  | nil => simp [codeRest, Regex.Letter.behind?]
  | cons c cs =>
    by_cases hline : c = '/'
    · subst hline
      simp [codeRest, Regex.Letter.behind?]
    · by_cases hblock : c = '*'
      · subst hblock
        simp [codeRest, Regex.Letter.behind?]
      · simp [codeRest, Regex.Letter.behind?, hline, hblock]

/-- Inside code a double quote starts a string, or is a word of its own. -/
theorem word_doubleQuote (h : Lexicon.table = .ok table) (cs : List Char) :
    ∃ name front, '\"' :: cs = front ++ codeRest ('\"' :: cs) ∧ name ≠ "\x7b" ∧ name ≠ "\x7d" ∧
      Word table Lexicon.codeMode [name] front (codeRest ('\"' :: cs)) := by
  have hstring := Lexicon.first?_code_string '\"' cs
  rw [if_pos rfl] at hstring
  rw [codeRest, ← hstring]
  refine word_codeMode h (.inr (by decide)) (.inr ⟨rfl, rfl⟩)
    (by rw [Lexicon.first?_code_quote, if_pos (.inl rfl)]) fun rest hrest => ?_
  rw [hstring] at hrest
  exact ⟨stringEnd?_suffix hrest, length_lt_of_stringEnd? hrest⟩

/-- Inside code a single quote starts a character literal, or is a word of its own. -/
theorem word_singleQuote (h : Lexicon.table = .ok table) (cs : List Char) :
    ∃ name front, '\'' :: cs = front ++ codeRest ('\'' :: cs) ∧ name ≠ "\x7b" ∧ name ≠ "\x7d" ∧
      Word table Lexicon.codeMode [name] front (codeRest ('\'' :: cs)) := by
  have hliteral := Lexicon.first?_code_string '\'' cs
  rw [if_neg (by decide), if_pos rfl] at hliteral
  rw [codeRest, ← hliteral]
  refine word_codeMode h (.inr (by decide)) (.inr ⟨rfl, rfl⟩)
    (by rw [Lexicon.first?_code_quote, if_pos (.inr rfl)]) fun rest hrest => ?_
  rw [hliteral] at hrest
  cases cs with
  | nil => contradiction
  | cons c cs =>
    have hsuffix := charEnd?_suffix hrest
    exact ⟨hsuffix.trans (List.suffix_cons c cs), Nat.lt_succ_of_le hsuffix.length_le⟩

/-- Inside code a slash starts a comment, or is a word of its own. -/
theorem word_codeSlash (h : Lexicon.table = .ok table) (cs : List Char) :
    ∃ name front, '/' :: cs = front ++ codeRest ('/' :: cs) ∧ name ≠ "\x7b" ∧ name ≠ "\x7d" ∧
      Word table Lexicon.codeMode [name] front (codeRest ('/' :: cs)) := by
  rw [codeRest_slash]
  refine word_codeMode h (.inl (by decide)) (.inl ⟨rfl, rfl⟩)
    (by rw [Lexicon.first?_sign (c := '/') rfl, if_pos rfl]) fun rest hrest => ?_
  rw [Lexicon.first?_code_comment, Option.or_eq_some_iff, Lexicon.first?_lineComment,
    Lexicon.first?_blockComment] at hrest
  rcases hrest with hline | ⟨-, hblock⟩
  · obtain ⟨text, hbehind, rfl⟩ := Option.map_eq_some_iff.1 hline
    obtain ⟨-, rfl⟩ := List.cons.inj ((Regex.Letter.behind?_eq_some_iff ['/', '/']).1 hbehind)
    have hsuffix := List.dropWhile_suffix (l := text) (· ≠ '\n')
    exact ⟨hsuffix.trans (List.suffix_cons '/' text), Nat.lt_succ_of_le hsuffix.length_le⟩
  · obtain ⟨text, hbehind, hend⟩ := Option.bind_eq_some_iff.1 hblock
    obtain ⟨-, rfl⟩ := List.cons.inj ((Regex.Letter.behind?_eq_some_iff ['/', '*']).1 hbehind)
    have hsuffix := commentEnd?_suffix hend
    exact ⟨hsuffix.trans (List.suffix_cons '*' text), Nat.lt_succ_of_le hsuffix.length_le⟩

/-- Inside code every text starts with a word. -/
theorem exists_codeWord (h : Lexicon.table = .ok table) (c : Char) (cs : List Char) :
    ∃ name front, c :: cs = front ++ behindCodeWord c cs ∧
      Word table Lexicon.codeMode [name] front (behindCodeWord c cs) ∧
      (name = "\x7b" ↔ c = '\x7b') ∧ (name = "\x7d" ↔ c = '\x7d') := by
  by_cases hbrace : c = '\x7b' ∨ c = '\x7d'
  · rw [behindCodeWord, if_pos hbrace]
    rcases hbrace with rfl | rfl
    · exact ⟨"\x7b", ['\x7b'], rfl, word_only h (by decide) (List.nil_append cs)
        (by rw [Lexicon.first?_sign (c := '\x7b') rfl, if_pos rfl]) (by decide), by decide, by decide⟩
    · exact ⟨"\x7d", ['\x7d'], rfl, word_only h (by decide) (List.nil_append cs)
        (by rw [Lexicon.first?_sign (c := '\x7d') rfl, if_pos rfl]) (by decide), by decide, by decide⟩
  · rw [behindCodeWord, if_neg hbrace]
    rw [not_or] at hbrace
    by_cases hc : isCodeChar c = true
    · rw [if_pos hc]
      refine ⟨"code_text", c :: cs.takeWhile isCodeChar, ?_,
        word_only h (Lexicon.startersOf_codeChar hc) List.takeWhile_append_dropWhile ?_ (by decide),
        by simp [hbrace.1], by simp [hbrace.2]⟩
      · rw [List.cons_append, List.takeWhile_append_dropWhile]
      · have hloop : (Lexicon.loopOf Lexicon.codeChars 1).first? (c :: cs) =
            if isCodeChar c then some (cs.dropWhile isCodeChar) else none :=
          Regex.Expr.first?_loop_one (fun _ => rfl) c cs
        rw [show Lexicon.bodyOf "code_text" = Lexicon.loopOf Lexicon.codeChars 1 from rfl, hloop,
          if_pos hc]
    · rw [if_neg hc]
      have hquotes : c = '\"' ∨ c = '\'' ∨ c = '/' := by
        rw [isCodeChar_eq] at hc
        simp only [Bool.and_eq_true, decide_eq_true_eq] at hc
        tauto
      obtain ⟨name, front, htext, hopens, hcloses, hword⟩ :
          ∃ name front, c :: cs = front ++ codeRest (c :: cs) ∧ name ≠ "\x7b" ∧ name ≠ "\x7d" ∧
            Word table Lexicon.codeMode [name] front (codeRest (c :: cs)) := by
        obtain rfl | rfl | rfl := hquotes
        · exact word_doubleQuote h cs
        · exact word_singleQuote h cs
        · exact word_codeSlash h cs
      exact ⟨name, front, htext, hword, by simp [hopens, hbrace.1], by simp [hcloses, hbrace.2]⟩

end GrammarLang.Grammar

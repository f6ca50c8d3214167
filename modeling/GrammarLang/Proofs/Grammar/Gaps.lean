import GrammarLang.Proofs.Grammar.Words

/-! # Gaps of the notation

Between the words of the notation proper there may be blanks and comments. **`behindGap`** finds the
text behind them, character by character, and **`passed_behindGap`** says that the scanner passes
over just as much. A text so has its first word where **`behindGap`** leads to. -/

namespace GrammarLang.Unicode.Ranges

/-- A code in ranges that end below a bound is below it. -/
theorem lt_of_contains {ranges : Ranges} {bound code : Nat}
    (h : (ranges.all fun range => range.2 < bound) = true) (hcode : ranges.contains code = true) :
    code < bound := by
  induction ranges with
  | nil => contradiction
  | cons range ranges ih =>
    obtain ⟨first, last⟩ := range
    rw [List.all_cons, Bool.and_eq_true, decide_eq_true_eq] at h
    rw [contains_cons] at hcode
    split at hcode
    · contradiction
    · rw [Bool.or_eq_true, decide_eq_true_eq] at hcode
      rcases hcode with hcode | hcode
      · exact Nat.lt_of_le_of_lt hcode h.1
      · exact ih h.2 hcode

end GrammarLang.Unicode.Ranges

namespace GrammarLang.Regex.Expr

/-- Whether all matches start with a character below a bound. -/
def startsBelow (bound : Nat) : Expr → Bool
  | .empty => false
  | .text [] => false
  | .text (.char c :: _) => c.toNat < bound
  | .text (.byte _ :: _) => true
  | .char set => set.all fun range => range.2 < bound
  | .byte _ => true
  | .look _ => true
  | .group _ body => body.startsBelow bound
  | .seq first _ => first.startsBelow bound
  | .alt first second => first.startsBelow bound && second.startsBelow bound
  | .repeated body least _ _ => least ≠ 0 && body.startsBelow bound

theorem lt_of_startsBelow {bound : Nat} {expr : Expr} (h : expr.startsBelow bound = true) {c : Char}
    (hc : expr.mayStart c = true) : c.toNat < bound := by
  induction expr with
  | empty => contradiction
  | text letters =>
    match letters with
    | [] => contradiction
    | .byte _ :: _ => simp [mayStart] at hc
    | .char d :: _ =>
      have hd : d = c := by simpa [mayStart] using hc
      simpa [startsBelow, hd] using h
  | char set =>
    exact Unicode.Ranges.lt_of_contains h hc
  | byte => contradiction
  | look => contradiction
  | group _ _ ih => exact ih h hc
  | seq _ _ ih => exact ih h hc
  | alt _ _ ih₁ ih₂ =>
    simp only [startsBelow, Bool.and_eq_true] at h
    simp only [mayStart, Bool.or_eq_true] at hc
    rcases hc with hc | hc
    · exact ih₁ h.1 hc
    · exact ih₂ h.2 hc
  | repeated _ least _ _ ih =>
    simp only [startsBelow, Bool.and_eq_true, decide_eq_true_eq] at h
    simp only [mayStart, Bool.or_eq_true, decide_eq_true_eq] at hc
    exact ih h.2 (hc.resolve_left h.1)

end GrammarLang.Regex.Expr

namespace GrammarLang.Grammar

open GrammarLang.Scan GrammarLang.Text

/-- Whether a character is a blank. -/
def isBlank (c : Char) : Bool := Lexicon.blanks.contains c.toNat

/-- The text behind the blanks and comments at the start of a text. -/
def behindGap (text : List Char) : List Char :=
  match text with
  | [] => []
  | '/' :: '/' :: cs => behindGap (cs.dropWhile (· ≠ '\n'))
  | '/' :: '*' :: cs =>
    match _ : commentEnd? cs with
    | some rest => behindGap rest
    | none => '/' :: '*' :: cs
  | c :: cs => if isBlank c then behindGap (cs.dropWhile isBlank) else c :: cs
termination_by text.length
decreasing_by
  · have := (List.dropWhile_suffix (l := cs) (· ≠ '\n')).length_le
    simp only [List.length_cons]
    omega
  · have := (commentEnd?_suffix (by assumption)).length_le
    simp only [List.length_cons]
    omega
  · exact Nat.lt_succ_of_le (List.dropWhile_suffix _).length_le

namespace Lexicon

/-- What holds of each of the first 128 characters holds of them all. -/
theorem of_ascii {P : Char → Prop} (h : ∀ n < 128, P (Char.ofNat n)) {c : Char}
    (hc : c.toNat < 128) : P c := by
  have hholds := h _ hc
  rwa [Char.ofNat_toNat] at hholds

/-- Only few rules match text that starts with a character which is not one of the first 128. -/
theorem startersOf_eq {mode : String} {c : Char} (hc : ¬ c.toNat < 128) :
    startersOf mode c =
      ((namesOf mode).filter fun name => ¬ (bodyOf name).startsBelow 128).filter fun name =>
        (bodyOf name).mayStart c := by
  rw [startersOf, List.filter_filter]
  refine List.filter_congr fun name _ => ?_
  by_cases hstart : (bodyOf name).mayStart c = true
  · have hbelow : (bodyOf name).startsBelow 128 = false :=
      Bool.eq_false_iff.2 fun hbelow => hc (Regex.Expr.lt_of_startsBelow hbelow hstart)
    simp [hbelow]
  · simp [hstart]

theorem startersOf_blank {c : Char} (hc : isBlank c = true) :
    startersOf defaultMode c = ["whitespace"] := by
  by_cases hascii : c.toNat < 128
  · refine of_ascii (P := fun c => isBlank c = true →
      startersOf defaultMode c = ["whitespace"]) ?_ hascii hc
    decide
  · have hnames : ((namesOf defaultMode).filter fun name => ¬ (bodyOf name).startsBelow 128) =
        ["whitespace"] := by decide
    have hstart : (bodyOf "whitespace").mayStart c = isBlank c := rfl
    rw [startersOf_eq hascii, hnames]
    simp [hstart, hc]

theorem startersOf_slash :
    startersOf defaultMode '/' = ["line_comment", "block_comment", "/"] := by decide

end Lexicon

variable {table : RuleTable} {mode : String}

/-! ## What is passed over -/

/-- Blanks are passed over together. -/
theorem wins_blanks (h : Lexicon.table = .ok table) {c : Char} (hc : isBlank c = true)
    (cs : List Char) :
    Wins table defaultMode ["whitespace"] (c :: cs.takeWhile isBlank) (cs.dropWhile isBlank) := by
  refine .of_starters h (Lexicon.startersOf_blank hc) List.takeWhile_append_dropWhile (by decide)
    (by decide) (by simp) ?_ (fun name hname hother => absurd hname hother)
  intro name hname
  have hblanks : ∀ c : Char, Lexicon.blanks.contains c.toNat = isBlank c := fun _ => rfl
  rw [List.mem_singleton.1 hname, show Lexicon.bodyOf "whitespace" = Lexicon.loopOf _ 1 from rfl,
    Lexicon.loopOf, Regex.Expr.first?_loop_one hblanks, if_pos hc]

/-- A line comment is passed over up to the end of the line. -/
theorem wins_lineComment (h : Lexicon.table = .ok table) (cs : List Char) :
    Wins table defaultMode ["line_comment"] ('/' :: '/' :: cs.takeWhile (· ≠ '\n'))
      (cs.dropWhile (· ≠ '\n')) := by
  have htext : '/' :: cs.takeWhile (· ≠ '\n') ++ cs.dropWhile (· ≠ '\n') = '/' :: cs := by
    rw [List.cons_append, List.takeWhile_append_dropWhile]
  refine .of_starters h Lexicon.startersOf_slash htext (by decide) (by decide) (by simp) ?_ ?_
  · intro name hname
    rw [List.mem_singleton.1 hname, Lexicon.first?_line_comment]
    rfl
  · intro name hname hother other hfirst
    have hle := (List.dropWhile_suffix (l := cs) (· ≠ '\n')).length_le
    rcases List.mem_cons.1 hname with rfl | hname
    · exact absurd (List.mem_singleton_self _) hother
    · rcases List.mem_cons.1 hname with rfl | hname
      · rw [Lexicon.first?_block_comment] at hfirst
        simp [Regex.Letter.behind?_cons_cons] at hfirst
      · rw [List.mem_singleton.1 hname, Lexicon.first?_sign (c := '/') rfl, if_pos rfl] at hfirst
        cases hfirst
        exact Nat.lt_succ_of_le hle

/-- A block comment is passed over up to its end, if it has one. -/
theorem wins_blockComment (h : Lexicon.table = .ok table) {front rest : List Char}
    (hend : commentEnd? (front ++ rest) = some rest) :
    Wins table defaultMode ["block_comment"] ('/' :: '*' :: front) rest := by
  have htext : '*' :: front ++ rest = '*' :: (front ++ rest) := rfl
  refine .of_starters h Lexicon.startersOf_slash htext (by decide) (by decide) (by simp) ?_ ?_
  · intro name hname
    rw [List.mem_singleton.1 hname, Lexicon.first?_block_comment]
    exact hend
  · intro name hname hother other hfirst
    rcases List.mem_cons.1 hname with rfl | hname
    · rw [Lexicon.first?_line_comment] at hfirst
      simp [Regex.Letter.behind?_cons_cons] at hfirst
    · rcases List.mem_cons.1 hname with rfl | hname
      · exact absurd (List.mem_singleton_self _) hother
      · rw [List.mem_singleton.1 hname, Lexicon.first?_sign (c := '/') rfl, if_pos rfl] at hfirst
        cases hfirst
        simp only [List.length_cons, List.length_append]
        omega

/-- Ignored text in front of a gap makes a longer gap. -/
theorem passed_cons (h : Lexicon.table = .ok table) {name : String} {front gap rest text : List Char}
    (hwins : Wins table mode [name] front text) (hname : name ∈ Lexicon.ignoredNames)
    (htext : text = gap ++ rest) (hpassed : Passed (table.rulesInMode mode) rest gap) :
    Passed (table.rulesInMode mode) rest (front ++ gap) := by
  subst htext
  refine .cons hwins.longest (fun rule hrule => ?_) hpassed
  have hmem := (List.mem_filter.1 (List.mem_filter.1 hrule).1).1
  rw [Lexicon.ignored_iff h hmem, List.mem_singleton.1 (hwins.name_mem hrule)]
  exact hname

/-- The scanner passes over the gap at the start of a text. -/
theorem passed_behindGap (h : Lexicon.table = .ok table) (text : List Char) :
    ∃ gap, text = gap ++ behindGap text ∧
      Passed (table.rulesInMode defaultMode) (behindGap text) gap := by
  fun_induction behindGap text with
  | case1 => exact ⟨[], rfl, .nil⟩
  | case2 cs ih =>
    obtain ⟨gap, htext, hpassed⟩ := ih
    refine ⟨'/' :: '/' :: cs.takeWhile (· ≠ '\n') ++ gap, ?_,
      passed_cons h (wins_lineComment h cs) (by decide) htext hpassed⟩
    rw [List.append_assoc, ← htext, List.cons_append, List.cons_append,
      List.takeWhile_append_dropWhile]
  | case3 cs rest hend ih =>
    obtain ⟨gap, htext, hpassed⟩ := ih
    obtain ⟨front, rfl⟩ := commentEnd?_suffix hend
    refine ⟨'/' :: '*' :: front ++ gap, ?_,
      passed_cons h (wins_blockComment h hend) (by decide) htext hpassed⟩
    rw [List.append_assoc, ← htext]
    rfl
  | case4 => exact ⟨[], rfl, .nil⟩
  | case5 c cs _ _ hc ih =>
    obtain ⟨gap, htext, hpassed⟩ := ih
    refine ⟨c :: cs.takeWhile isBlank ++ gap, ?_,
      passed_cons h (wins_blanks h hc cs) (by decide) htext hpassed⟩
    rw [List.append_assoc, ← htext, List.cons_append, List.takeWhile_append_dropWhile]
  | case6 => exact ⟨[], rfl, .nil⟩

/-- A text with a gap at its start has a shorter one behind the gap. -/
theorem behindGap_suffix (text : List Char) : behindGap text <:+ text := by
  fun_induction behindGap text with
  | case1 => exact List.suffix_rfl
  | case2 cs ih => exact ih.trans ((List.dropWhile_suffix _).trans (List.suffix_append ['/', '/'] cs))
  | case3 cs rest hend ih =>
    exact ih.trans ((commentEnd?_suffix hend).trans (List.suffix_append ['/', '*'] cs))
  | case4 => exact List.suffix_rfl
  | case5 c cs _ _ _ ih => exact ih.trans ((List.dropWhile_suffix _).trans (List.suffix_cons c cs))
  | case6 => exact List.suffix_rfl

theorem behindGap_lineComment (cs : List Char) :
    behindGap ('/' :: '/' :: cs) = behindGap (cs.dropWhile (· ≠ '\n')) := by
  rw [behindGap]

theorem behindGap_blockComment {cs rest : List Char} (h : commentEnd? cs = some rest) :
    behindGap ('/' :: '*' :: cs) = behindGap rest := by
  rw [behindGap]
  split
  · rename_i heq
    rw [h] at heq
    cases heq
    rfl
  · rename_i heq
    rw [h] at heq
    contradiction

/-- A character that is no blank and no slash is not passed over. -/
theorem behindGap_cons {c : Char} (hblank : isBlank c = false) (hslash : c ≠ '/') (cs : List Char) :
    behindGap (c :: cs) = c :: cs := by
  rw [behindGap]
  · simp [hblank]
  · rintro ds rfl
    exact absurd rfl hslash
  · rintro ds rfl
    exact absurd rfl hslash

theorem behindGap_blanks {c : Char} (hblank : isBlank c = true) (cs : List Char) :
    behindGap (c :: cs) = behindGap (cs.dropWhile isBlank) := by
  have hslash : c ≠ '/' := by
    rintro rfl
    exact absurd hblank (by decide)
  rw [behindGap]
  · rw [if_pos hblank]
  · rintro ds rfl
    exact absurd rfl hslash
  · rintro ds rfl
    exact absurd rfl hslash

/-- A blank is passed over. -/
theorem behindGap_blank {c : Char} (hblank : isBlank c = true) (cs : List Char) :
    behindGap (c :: cs) = behindGap cs := by
  rw [behindGap_blanks hblank]
  cases cs with
  | nil => rfl
  | cons d ds =>
    by_cases hd : isBlank d = true
    · rw [List.dropWhile_cons_of_pos hd, behindGap_blanks hd]
    · rw [List.dropWhile_cons_of_neg hd]

@[simp] theorem behindGap_space (cs : List Char) : behindGap (' ' :: cs) = behindGap cs :=
  behindGap_blank (by decide) cs

@[simp] theorem behindGap_newline (cs : List Char) : behindGap ('\n' :: cs) = behindGap cs :=
  behindGap_blank (by decide) cs

/-- A slash that opens no comment is not passed over. -/
theorem behindGap_slash {c : Char} (hline : c ≠ '/') (hblock : c ≠ '*') (cs : List Char) :
    behindGap ('/' :: c :: cs) = '/' :: c :: cs := by
  rw [behindGap]
  · simp [show isBlank '/' = false by decide]
  · rintro ds - heq
    exact hline (List.cons.inj heq).1
  · rintro ds - heq
    exact hblock (List.cons.inj heq).1

/-- Where nothing is passed over, what rules match is kept. -/
theorem kept_of_behindGap (h : Lexicon.table = .ok table) {text : List Char}
    (hsolid : behindGap text = text) {rule : Rule} (hmem : rule ∈ table.rules) {count : Nat}
    (hcount : rule.matchLength? text = some count) : rule.ignored = false := by
  refine Bool.eq_false_iff.2 fun hignored => ?_
  have hname := (Lexicon.ignored_iff h hmem).1 hignored
  have hshorter : ∀ cs : List Char, cs.length < text.length → behindGap text ≠ behindGap cs := by
    intro cs hlength heq
    have hle := (behindGap_suffix cs).length_le
    rw [← heq, hsolid] at hle
    omega
  have hrepeat : rule.name ≠ Lexicon.regexRepeat := by
    rintro heq
    rw [heq] at hname
    exact absurd hname (by decide)
  rw [Lexicon.matchLength?_eq h hmem hrepeat, Regex.Expr.takes?] at hcount
  obtain ⟨rest, hrest⟩ : ∃ rest, (Lexicon.bodyOf rule.name).first? text = some rest := by
    split at hcount
    · contradiction
    · exact ⟨_, ‹_›⟩
  simp only [Lexicon.ignoredNames, List.mem_cons, List.not_mem_nil, or_false] at hname
  obtain hname | hname | hname := hname
  all_goals rw [hname] at hrest
  · cases text with
    | nil =>
      have hrests : (Lexicon.bodyOf "whitespace").rests [] = [] := 
        Regex.Expr.rests_loop (fun _ => rfl) 1 true []
      rw [Regex.Expr.first?, hrests] at hrest
      contradiction
    | cons c cs =>
      have hc : isBlank c = true := Regex.Expr.mayStart_of_first? hrest
      exact hshorter cs (Nat.lt_succ_self _) (behindGap_blank hc cs)
  · rw [Lexicon.first?_line_comment, Option.map_eq_some_iff] at hrest
    obtain ⟨cs, hbehind, -⟩ := hrest
    obtain rfl := (Regex.Letter.behind?_eq_some_iff ['/', '/']).1 hbehind
    refine hshorter _ ?_ (behindGap_lineComment cs)
    have hle := (List.dropWhile_suffix (l := cs) (· ≠ '\n')).length_le
    simp only [List.cons_append, List.nil_append, List.length_cons]
    omega
  · rw [Lexicon.first?_block_comment, Option.bind_eq_some_iff] at hrest
    obtain ⟨cs, hbehind, hend⟩ := hrest
    obtain rfl := (Regex.Letter.behind?_eq_some_iff ['/', '*']).1 hbehind
    refine hshorter _ ?_ (behindGap_blockComment hend)
    have hle := (commentEnd?_suffix hend).length_le
    simp only [List.cons_append, List.nil_append, List.length_cons]
    omega

/-- There is no gap at the start of a text behind a gap. -/
theorem behindGap_behindGap (text : List Char) : behindGap (behindGap text) = behindGap text := by
  fun_induction behindGap text with
  | case1 => rw [behindGap]
  | case2 cs ih => exact ih
  | case3 cs rest hend ih => exact ih
  | case4 cs hend =>
    rw [behindGap]
    split
    · rename_i heq
      rw [hend] at heq
      contradiction
    · rfl
  | case5 c cs _ _ _ ih => exact ih
  | case6 c cs hline hblock hc =>
    rw [behindGap, if_neg hc]
    · exact hline
    · exact hblock

/-- The scanner passes over nothing behind the gap. -/
theorem unpassable_behindGap (h : Lexicon.table = .ok table) (text : List Char) :
    Unpassable (table.rulesInMode defaultMode) (behindGap text) := by
  intro count hcount
  obtain ⟨rule, hrule⟩ := List.exists_mem_of_ne_nil _ hcount.tied_ne_nil
  obtain ⟨hmem, hlength⟩ := List.mem_filter.1 hrule
  exact ⟨rule, hrule, kept_of_behindGap h (behindGap_behindGap text) (List.mem_filter.1 hmem).1
    (of_decide_eq_true hlength)⟩

/-- What is cut off behind a gap starts where the gap ends. -/
theorem behindGap_eq (h : Lexicon.table = .ok table) {gap text : List Char}
    (hpassed : Passed (table.rulesInMode defaultMode) text gap)
    (htext : Unpassable (table.rulesInMode defaultMode) text) : behindGap (gap ++ text) = text := by
  obtain ⟨gap', heq, hpassed'⟩ := passed_behindGap h (gap ++ text)
  obtain rfl := hpassed.unique hpassed' heq htext (unpassable_behindGap h _)
  exact (List.append_cancel_left heq).symm

end GrammarLang.Grammar

import GrammarLang.Proofs.Scan.Compiled
import GrammarLang.Proofs.Scan.Tokenize
import Mathlib.Data.List.Perm.Basic

/-! # Rules in another order

The order in which rules are declared has no say in what is scanned. Declarations compile in every
order if they do in one, **`RuleTable.compile_perm`**, and in every order they find the same lexemes
at the same places, **`scan_perm`**. So a text is cut into the same token sets, up to the order of the
tokens in each of them, or it cannot be scanned for the same reason at the same place:
**`tokenize_perm`**. -/

namespace GrammarLang.Scan

open GrammarLang.Text

/-! ## Results that go together -/

/-- Two results are values that go together, or failures that do. -/
inductive Both {ε α : Type} (failures : ε → ε → Prop) (values : α → α → Prop) :
    Except ε α → Except ε α → Prop
  /-- Both are values. -/
  | ok {value other : α} (h : values value other) : Both failures values (.ok value) (.ok other)
  /-- Both are failures. -/
  | error {failure other : ε} (h : failures failure other) :
      Both failures values (.error failure) (.error other)

namespace Both

variable {ε α β : Type} {failures : ε → ε → Prop} {values : α → α → Prop} {values' : β → β → Prop}

/-- Values that go together may be changed together. -/
theorem map {left right : Except ε α} {change : α → β}
    (hchange : ∀ {a b}, values a b → values' (change a) (change b))
    (h : Both failures values left right) :
    Both failures values' (left.map change) (right.map change) := by
  cases h with
  | ok h => exact .ok (hchange h)
  | error h => exact .error h

/-- Of lists whose items go together the values go together, or the first failures do. -/
theorem mapM_id {items others : List (Except ε α)}
    (h : List.Forall₂ (Both failures values) items others) :
    Both failures (List.Forall₂ values) (items.mapM id) (others.mapM id) := by
  induction h with
  | nil => exact .ok .nil
  | @cons first first' items others hfirst _ ih =>
    rw [List.mapM_cons, List.mapM_cons]
    cases hfirst with
    | error hfirst => exact .error hfirst
    | ok hfirst =>
      -- What comes behind the first value decides.
      generalize items.mapM id = made at ih ⊢
      generalize others.mapM id = made' at ih ⊢
      cases ih with
      | error hothers => exact .error hothers
      | ok hothers => exact .ok (.cons hfirst hothers)

end Both

/-! ## Declarations -/

namespace RuleTable

variable {unicode : Bool} {name : String} {specs specs' : List RuleSpec}

/-- Declarations compile in every order if they do in one, to the same rules. -/
theorem compile_perm {table : RuleTable} (h : compile name unicode specs = .ok table)
    (hperm : specs.Perm specs') :
    ∃ table', compile name unicode specs' = .ok table' ∧ table.rules.Perm table'.rules := by
  rw [compile] at h
  cases hrules : compileRules unicode [] specs with
  | error error => simp [hrules, Except.map] at h
  | ok rules =>
    rw [hrules] at h
    cases h
    obtain ⟨hcompiled, hdistinct, -⟩ := compileRules_eq_ok_iff.1 hrules
    obtain ⟨rules', hcompiled', hperm'⟩ := List.perm_comp_forall₂ hperm.symm hcompiled
    have hrules' : compileRules unicode [] specs' = .ok rules' := by
      refine compileRules_eq_ok_iff.2 ⟨hcompiled', ?_, by simp⟩
      exact (hperm.pairwise_iff fun h h' => h h'.symm).1 hdistinct
    refine ⟨⟨name, rules'⟩, ?_, hperm'.symm⟩
    rw [compile, hrules']
    rfl

end RuleTable

theorem rulesInMode_perm {table table' : RuleTable} (h : table.rules.Perm table'.rules)
    (mode : String) : (table.rulesInMode mode).Perm (table'.rulesInMode mode) :=
  h.filter _

/-! ## The longest match -/

/-- A rule among some matches a text, but not at its start. -/
def Misplaced (rules : List Rule) (text : List Char) (rule : Rule) : Prop :=
  rule ∈ rules ∧ rule.matchAt (.start text) = .misplaced

/-- What a rule matches at the start of a text, with the rule. -/
def Rule.withLength? (rule : Rule) (text : List Char) : Option (Rule × Nat) :=
  (rule.matchLength? text).map (rule, ·)

/-- The matches of all rules are found, or a rule whose match is misplaced. -/
theorem matchesAt_cases (rules : List Rule) (text : List Char) :
    (matchesAt (.start text) rules = .ok (rules.filterMap (·.withLength? text)) ∧
        ∀ rule, ¬ Misplaced rules text rule) ∨
      ∃ rule, matchesAt (.start text) rules = .error rule ∧ Misplaced rules text rule := by
  induction rules with
  | nil => exact .inl ⟨rfl, fun _ h => List.not_mem_nil h.1⟩
  | cons first rules ih =>
    rw [matchesAt, List.filterMap_cons]
    have hmore {rule : Rule} (h : Misplaced rules text rule) : Misplaced (first :: rules) text rule :=
      ⟨List.mem_cons_of_mem _ h.1, h.2⟩
    have hnone (hfirst : first.matchAt (.start text) ≠ .misplaced)
        (hothers : ∀ rule, ¬ Misplaced rules text rule) (rule : Rule) :
        ¬ Misplaced (first :: rules) text rule := by
      rintro ⟨hmem, hrule⟩
      rcases List.mem_cons.1 hmem with rfl | hmem
      · exact hfirst hrule
      · exact hothers rule ⟨hmem, hrule⟩
    cases hat : first.matchAt (.start text) with
    | misplaced => exact .inr ⟨first, rfl, List.mem_cons_self, hat⟩
    | none =>
      have hentry : first.withLength? text = none := by simp [Rule.withLength?, Rule.matchLength?, hat]
      rw [hentry]
      rcases ih with ⟨hfound, hothers⟩ | ⟨rule, hfound, hrule⟩
      · exact .inl ⟨hfound, hnone (by simp [hat]) hothers⟩
      · exact .inr ⟨rule, hfound, hmore hrule⟩
    | chars count =>
      have hentry : first.withLength? text = some (first, count) := by
        simp [Rule.withLength?, Rule.matchLength?, hat]
      rw [hentry]
      rcases ih with ⟨hfound, hothers⟩ | ⟨rule, hfound, hrule⟩
      · exact .inl ⟨by rw [hfound]; rfl, hnone (by simp [hat]) hothers⟩
      · exact .inr ⟨rule, by rw [hfound]; rfl, hmore hrule⟩

theorem Misplaced.perm {rules rules' : List Rule} {text : List Char} {rule : Rule}
    (h : Misplaced rules text rule) (hperm : rules.Perm rules') : Misplaced rules' text rule :=
  ⟨hperm.mem_iff.1 h.1, h.2⟩

/-- The best length does not depend on the order. -/
theorem Matches.best_perm {found found' : Matches} (h : found.Perm found') :
    found.best = Matches.best found' :=
  h.foldr_eq' (fun _ _ _ _ _ => by simp only [Nat.max_left_comm]) 0

theorem Matches.winners_perm {found found' : Matches} (h : found.Perm found') :
    found.winners.Perm (Matches.winners found') := by
  rw [winners, winners, best_perm h]
  exact (h.filter _).map _

variable {rules rules' : List Rule}

/-- In every order of the rules the longest match is of the same length and of the same rules. -/
theorem longest_perm (h : rules.Perm rules') (text : List Char) :
    Both (fun rule rule' => Misplaced rules text rule ∧ Misplaced rules text rule')
      (fun found found' => found.1 = found'.1 ∧ found.2.Perm found'.2)
      (longest rules (.start text)) (longest rules' (.start text)) := by
  rw [longest, longest]
  rcases matchesAt_cases rules text with ⟨hfound, hnone⟩ | ⟨rule, hfound, hrule⟩
  · rcases matchesAt_cases rules' text with ⟨hfound', -⟩ | ⟨rule', -, hrule'⟩
    · rw [hfound, hfound']
      have hperm := h.filterMap (·.withLength? text)
      exact .ok ⟨Matches.best_perm hperm, Matches.winners_perm hperm⟩
    · exact absurd (hrule'.perm h.symm) (hnone rule')
  · rcases matchesAt_cases rules' text with ⟨-, hnone'⟩ | ⟨rule', hfound', hrule'⟩
    · exact absurd (hrule.perm h) (hnone' rule)
    · rw [hfound, hfound']
      exact .error ⟨hrule, hrule'.perm h.symm⟩

theorem longest_perm_error (h : rules.Perm rules') {source : Source} {here : Cursor source}
    {rule : Rule} (hfound : longest rules (spotAt here) = .error rule) :
    ∃ rule', longest rules' (spotAt here) = .error rule' ∧ Misplaced rules here.rest rule ∧
      Misplaced rules here.rest rule' := by
  have hboth := longest_perm h here.rest
  rw [← spotAt_eq_start, hfound] at hboth
  generalize longest rules' (spotAt here) = found' at hboth
  cases hboth with
  | error hmisplaced => exact ⟨_, rfl, hmisplaced⟩

theorem longest_perm_ok (h : rules.Perm rules') {source : Source} {here : Cursor source}
    {count : Nat} {winners : List Rule}
    (hfound : longest rules (spotAt here) = .ok (count, winners)) :
    ∃ winners', longest rules' (spotAt here) = .ok (count, winners') ∧ winners.Perm winners' := by
  have hboth := longest_perm h here.rest
  rw [← spotAt_eq_start, hfound] at hboth
  generalize longest rules' (spotAt here) = found' at hboth
  cases hboth with
  | @ok _ found' hsame =>
    obtain ⟨rfl, hperm⟩ := hsame
    exact ⟨found'.2, rfl, hperm⟩

theorem longest_perm_cons (h : rules.Perm rules') {source : Source} {here : Cursor source}
    {count : Nat} {first : Rule} {others : List Rule}
    (hfound : longest rules (spotAt here) = .ok (count, first :: others)) :
    ∃ first' others', longest rules' (spotAt here) = .ok (count, first' :: others') ∧
      (first :: others).Perm (first' :: others') := by
  obtain ⟨winners', hfound', hperm⟩ := longest_perm_ok h hfound
  cases winners' with
  | nil => exact absurd hperm.eq_nil (List.cons_ne_nil _ _)
  | cons first' others' => exact ⟨first', others', hfound', hperm⟩

/-! ## The next lexeme -/

/-- Two findings at a place, before some text, are the same up to the order of the rules. Of several
rules whose match is misplaced, any may be found. -/
inductive Finding.Alike (rules : List Rule) (text : List Char) : Finding → Finding → Prop
  /-- The end of the text. -/
  | atEnd : Alike rules text .atEnd .atEnd
  /-- A character that no rule matches. -/
  | unknown (c : Char) : Alike rules text (.unknown c) (.unknown c)
  /-- A rule that matched, but not there. -/
  | misplaced {rule rule' : Rule} (h : Misplaced rules text rule) (h' : Misplaced rules text rule') :
      Alike rules text (.misplaced rule) (.misplaced rule')
  /-- Rules that disagree on whether to ignore their match. -/
  | mixed {found found' : List Rule} (perm : found.Perm found') (count : Nat) :
      Alike rules text (.mixed found count) (.mixed found' count)
  /-- Rules that make tokens of their match. -/
  | lexeme {first first' : Rule} {others others' : List Rule}
      (perm : (first :: others).Perm (first' :: others')) (count : Nat) :
      Alike rules text (.lexeme first others count) (.lexeme first' others' count)

theorem all_perm {found found' : List Rule} (h : found.Perm found') (test : Rule → Bool) :
    found.all test = found'.all test := by
  rw [Bool.eq_iff_iff, List.all_eq_true, List.all_eq_true]
  exact forall_congr' fun rule => imp_congr_left h.mem_iff

theorem any_perm {found found' : List Rule} (h : found.Perm found') (test : Rule → Bool) :
    found.any test = found'.any test := by
  rw [Bool.eq_iff_iff, List.any_eq_true, List.any_eq_true]
  exact exists_congr fun rule => and_congr_left' h.mem_iff

/-- What is found where the text does not end hangs on the longest match. -/
theorem scan_of_rest_eq_cons {source : Source} {here : Cursor source} {c : Char} {cs : List Char}
    (hrest : here.rest = c :: cs) (rules : List Rule) :
    scan rules here = match longest rules (spotAt here) with
      | .error rule => (.misplaced rule, here)
      | .ok (0, _) => (.unknown c, here)
      | .ok (_, []) => (.unknown c, here)
      | .ok (count + 1, first :: others) =>
        if (first :: others).all Rule.ignored then scan rules (here.skip (count + 1))
        else if (first :: others).any Rule.ignored then (.mixed (first :: others) (count + 1), here)
        else (.lexeme first others (count + 1), here) := by
  rw [scan]
  split
  · simp_all
  · rename_i c' cs' hrest'
    obtain ⟨rfl, rfl⟩ := List.cons.inj (hrest.symm.trans hrest')
    rfl

/-- In every order of the rules the same is found at the same place. -/
theorem scan_perm {source : Source} (h : rules.Perm rules') (here : Cursor source) :
    (scan rules here).1.Alike rules (scan rules here).2.rest (scan rules' here).1 ∧
      (scan rules' here).2 = (scan rules here).2 := by
  fun_induction scan rules here with
  | case1 here hrest =>
    rw [scan]
    split
    · exact ⟨.atEnd, rfl⟩
    · simp_all
  | case2 here c cs hrest rule hfound =>
    obtain ⟨rule', hfound', hrule, hrule'⟩ := longest_perm_error h hfound
    rw [scan_of_rest_eq_cons hrest, hfound']
    exact ⟨.misplaced hrule hrule', rfl⟩
  | case3 here c cs hrest winners hfound =>
    obtain ⟨winners', hfound', -⟩ := longest_perm_ok h hfound
    rw [scan_of_rest_eq_cons hrest, hfound']
    exact ⟨.unknown c, rfl⟩
  | case4 here c cs hrest count hpositive hfound =>
    obtain ⟨winners', hfound', hperm⟩ := longest_perm_ok h hfound
    obtain rfl := hperm.nil_eq
    rw [scan_of_rest_eq_cons hrest, hfound']
    cases count with
    | zero => exact ⟨.unknown c, rfl⟩
    | succ count => exact ⟨.unknown c, rfl⟩
  | case5 here c cs hrest count first others hfound hall ih =>
    obtain ⟨first', others', hfound', hperm⟩ := longest_perm_cons h hfound
    rw [all_perm hperm] at hall
    rw [scan_of_rest_eq_cons hrest, hfound']
    simp only [if_pos hall]
    exact ih
  | case6 here c cs hrest count first others hfound hall hany =>
    obtain ⟨first', others', hfound', hperm⟩ := longest_perm_cons h hfound
    rw [all_perm hperm] at hall
    rw [any_perm hperm] at hany
    rw [scan_of_rest_eq_cons hrest, hfound']
    simp only [if_neg hall, if_pos hany]
    exact ⟨.mixed hperm _, trivial⟩
  | case7 here c cs hrest count first others hfound hall hany =>
    obtain ⟨first', others', hfound', hperm⟩ := longest_perm_cons h hfound
    rw [all_perm hperm] at hall
    rw [any_perm hperm] at hany
    rw [scan_of_rest_eq_cons hrest, hfound']
    simp only [if_neg hall, if_neg hany]
    exact ⟨.lexeme hperm _, trivial⟩

/-! ## Tokens -/

/-- Two token sets have the same tokens in some order, and stand at the same place. -/
structure TokenSet.Alike (set other : TokenSet) : Prop where
  /-- The tokens are the same, with their texts and values. -/
  perm : set.toList.Perm other.toList
  /-- The places are the same. -/
  span_eq : set.first.span = other.first.span

/-- Two failures of scanning a text with some rules are the same up to the order of the rules. Of
several rules that attain a longest match and refuse its text, any may be told, and of several rules
whose match is misplaced as well. -/
inductive Error.Alike (rules : List Rule) (source : Source) : Error → Error → Prop
  /-- No rule matches. -/
  | unknown (c : Char) (position : Position) :
      Alike rules source (.invalidToken c position) (.invalidToken c position)
  /-- The rules that attain the longest match disagree on whether to ignore it. -/
  | mixed (text : String) {names names' : List String} (perm : names.Perm names')
      (position : Position) : Alike rules source (.ambiguousIgnore text names position)
        (.ambiguousIgnore text names' position)
  /-- Rules that attain the longest match at a place refuse its text. -/
  | refused (place : Cursor source) (count : Nat) {rule rule' : Rule} {reason reason' : String}
      (mem : rule ∈ tied rules place.rest count) (mem' : rule' ∈ tied rules place.rest count)
      (refusal : rule.evaluate (place.text count) = .error reason)
      (refusal' : rule'.evaluate (place.text count) = .error reason') :
      Alike rules source (.decode rule.name (place.text count) reason place.position)
        (.decode rule'.name (place.text count) reason' place.position)
  /-- Rules match a text from a place on, but not at its start. -/
  | misplaced (place : Cursor source) {rule rule' : Rule} (h : Misplaced rules place.rest rule)
      (h' : Misplaced rules place.rest rule') :
      Alike rules source (.misplacedMatch rule.name) (.misplacedMatch rule'.name)

/-- The rules whose match of a text is longest are tied. -/
theorem mem_tied_of_longest {source : Source} {here : Cursor source} {count : Nat}
    {winners : List Rule} (h : longest rules (spotAt here) = .ok (count, winners)) {rule : Rule}
    (hmem : rule ∈ winners) : rule ∈ tied rules here.rest count := by
  rw [longest, spotAt_eq_start] at h
  rcases matchesAt_cases rules here.rest with ⟨hfound, -⟩ | ⟨other, hfound, -⟩
  · rw [hfound] at h
    obtain ⟨rfl, rfl⟩ := Prod.mk.inj (Except.ok.inj h)
    obtain ⟨⟨other, length⟩, hentry, rfl⟩ := List.mem_map.1 hmem
    obtain ⟨hentry, hbest⟩ := List.mem_filter.1 hentry
    obtain ⟨rule, hrule, hlength⟩ := List.mem_filterMap.1 hentry
    obtain ⟨length, hlength, heq⟩ := Option.map_eq_some_iff.1 hlength
    cases heq
    refine List.mem_filter.2 ⟨hrule, ?_⟩
    rw [hlength]
    simpa using hbest
  · rw [hfound] at h
    contradiction

/-- A token set that is made of a text stands where the text does. -/
theorem Reads.span_first {offset : Nat} {front : List Char} {found : List Rule} {set : TokenSet}
    (h : List.Forall₂ (Reads offset front) found set.toList) :
    set.first.span = ⟨offset, offset + byteSize front⟩ := by
  obtain ⟨rule, -, value, -, heq⟩ := Reads.of_mem h (List.mem_cons_self ..)
  rw [heq]

/-! ## Scanning -/

namespace Scanner

/-- If one order of the rules makes a token set of a text, then so does every other. -/
theorem evaluateAll_perm_ok {source : Source} {offset : Nat} {front : List Char}
    {first first' : Rule} {others others' : List Rule}
    (h : (first :: others).Perm (first' :: others')) {set : TokenSet}
    (hset : evaluateAll source ⟨offset, offset + byteSize front⟩ (String.ofList front) first others =
      .ok set) :
    ∃ set', evaluateAll source ⟨offset, offset + byteSize front⟩ (String.ofList front) first' others' =
      .ok set' ∧ set.Alike set' := by
  have hread := (evaluateAll_eq_ok_iff source).1 hset
  obtain ⟨tokens, hread', hperm⟩ := List.perm_comp_forall₂ h.symm hread
  obtain ⟨token, further, -, -, rfl⟩ := List.forall₂_cons_left_iff.1 hread'
  have hset' := (evaluateAll_eq_ok_iff source).2 (show List.Forall₂ (Reads offset front)
    (first' :: others') (TokenSet.mk token further).toList from hread')
  have hspan' := Reads.span_first ((evaluateAll_eq_ok_iff source).1 hset')
  exact ⟨⟨token, further⟩, hset', hperm.symm, (Reads.span_first hread).trans hspan'.symm⟩

/-- In every order of the rules the same tokens are made of a text, or some rule refuses it. -/
theorem evaluateAll_perm {source : Source} (place : Cursor source) (count : Nat)
    {first first' : Rule} {others others' : List Rule}
    (h : (first :: others).Perm (first' :: others'))
    (hmem : ∀ rule ∈ first :: others, rule ∈ tied rules place.rest count) :
    Both (Error.Alike rules source) TokenSet.Alike
      (evaluateAll source (place.span count) (place.text count) first others)
      (evaluateAll source (place.span count) (place.text count) first' others') := by
  cases hset : evaluateAll source (place.span count) (place.text count) first others with
  | ok set =>
    obtain ⟨set', hset', halike⟩ := evaluateAll_perm_ok h hset
    rw [Cursor.span, Cursor.text, hset']
    exact .ok halike
  | error error =>
    cases hset' : evaluateAll source (place.span count) (place.text count) first' others' with
    | ok set' =>
      obtain ⟨set, hok, -⟩ := evaluateAll_perm_ok h.symm hset'
      rw [Cursor.span, Cursor.text, hok] at hset
      contradiction
    | error error' =>
      obtain ⟨before, rule, behind, reason, horder, -, hrefusal, rfl⟩ := evaluateAll_eq_error hset
      obtain ⟨before', rule', behind', reason', horder', -, hrefusal', rfl⟩ :=
        evaluateAll_eq_error hset'
      have hrule : rule ∈ first :: others := by
        rw [horder]
        exact List.mem_append_right _ List.mem_cons_self
      have hrule' : rule' ∈ first :: others := by
        rw [h.mem_iff, horder']
        exact List.mem_append_right _ List.mem_cons_self
      exact .error (.refused place count (hmem rule hrule) (hmem rule' hrule') hrefusal hrefusal')

/-- Two scanners stand at the same place of the same text, at the same token set up to the order of
its tokens, and their rules are the same up to their order. -/
def Alike (scanner other : Scanner) : Prop :=
  ∃ table current recorded told, other = { scanner with table, current, recorded, told } ∧
    scanner.table.rules.Perm table.rules ∧ Option.Rel TokenSet.Alike scanner.current current

/-- Two outcomes of scanners with some rules are both successes, and the scanners are alike
afterwards, or both are failures that are alike. -/
inductive OutcomesAlike (rules : List Rule) (source : Source) : Outcome Unit → Outcome Unit → Prop
  /-- Both succeed. -/
  | ok {after after' : Scanner} (h : after.Alike after') (rules_eq : after.rules = rules)
      (source_eq : after.source = source) :
      OutcomesAlike rules source (.ok () after) (.ok () after')
  /-- Both fail. -/
  | failed {error error' : Error} {after after' : Scanner} (h : error.Alike rules source error') :
      OutcomesAlike rules source (.failed error after) (.failed error' after')

variable {scanner other : Scanner}

/-- Scanners that are alike advance alike. -/
theorem advance_alike (h : scanner.Alike other) :
    OutcomesAlike scanner.rules scanner.source scanner.advance other.advance := by
  obtain ⟨table, current, recorded, told, rfl, hperm, -⟩ := h
  obtain ⟨halike, hplace⟩ := scan_perm (rulesInMode_perm hperm scanner.mode) scanner.place
  obtain ⟨⟨found, place⟩, hscan⟩ : ∃ found, scanner.finding = found := ⟨_, rfl⟩
  obtain ⟨⟨found', place'⟩, hscan'⟩ : ∃ found,
    { scanner with table, current, recorded, told }.finding = found := ⟨_, rfl⟩
  change scan (scanner.table.rulesInMode scanner.mode) scanner.place = _ at hscan
  change scan (table.rulesInMode scanner.mode) scanner.place = _ at hscan'
  rw [hscan, hscan'] at halike hplace
  obtain rfl : place' = place := hplace
  have hfinding : scanner.finding = (found, place') := hscan
  have hfinding' : { scanner with table, current, recorded, told }.finding = (found', place') := hscan'
  rw [advance, advance, hfinding, hfinding']
  cases halike with
  | atEnd => exact .ok ⟨table, none, recorded, told, rfl, hperm, .none⟩ rfl rfl
  | unknown c => exact .failed (.unknown c _)
  | misplaced hrule hrule' => exact .failed (.misplaced place' hrule hrule')
  | mixed perm count => exact .failed (.mixed _ (perm.map _) _)
  | @lexeme first first' others others' perm count =>
    obtain ⟨-, -, hlongest, -⟩ := longest_of_scan_eq_lexeme hscan
    have hset := evaluateAll_perm place' count perm fun rule => mem_tied_of_longest hlongest
    simp only []
    generalize evaluateAll scanner.source (place'.span count) (place'.text count) first others = made
      at hset ⊢
    generalize evaluateAll scanner.source (place'.span count) (place'.text count) first' others' = made'
      at hset ⊢
    cases hset with
    | error halike => exact .failed halike
    | @ok set set' halike =>
      exact .ok ⟨table, some set', recorded.map (set' :: ·), _, rfl, hperm, .some halike⟩ rfl rfl

/-- Scanners that are alike consume their token set alike. -/
theorem next_alike (h : scanner.Alike other) :
    OutcomesAlike scanner.rules scanner.source scanner.next other.next := by
  obtain ⟨table, current, recorded, told, rfl, hperm, hcurrent⟩ := h
  have hend : current.map (·.first.span.stop) = scanner.current.map (·.first.span.stop) := by
    generalize scanner.current = mine at hcurrent ⊢
    cases hcurrent with
    | none => rfl
    | some halike => exact congrArg (fun span => some span.stop) halike.span_eq.symm
  rw [next_eq, next_eq]
  have hbehind : scanner.behindCurrent.Alike
      { scanner with table, current, recorded, told }.behindCurrent := by
    refine ⟨table, current, recorded, told, ?_, hperm, hcurrent⟩
    simp only [behindCurrent, hend]
  exact advance_alike hbehind

/-- Scanners that are alike pull token sets and failures that are alike. -/
theorem pull_alike (h : scanner.Alike other) (limit : Nat) :
    List.Forall₂ (Both (Error.Alike scanner.rules scanner.source) TokenSet.Alike)
      (scanner.pull limit).1 (other.pull limit).1 := by
  induction limit generalizing scanner other with
  | zero => exact .nil
  | succ limit ih =>
    have hnext := next_alike h
    obtain ⟨table, current, recorded, told, hother, hperm, hcurrent⟩ := h
    have hcurrent' : other.current = current := by rw [hother]
    rw [pull, pull, hcurrent']
    generalize scanner.current = mine at hcurrent ⊢
    cases hcurrent with
    | none => exact .nil
    | @some set set' hset =>
      simp only []
      generalize scanner.next = outcome at hnext ⊢
      generalize other.next = outcome' at hnext ⊢
      cases hnext with
      | ok hafter hrules hsource =>
        have hfurther := ih hafter
        rw [hrules, hsource] at hfurther
        exact .cons (.ok hset) hfurther
      | failed herror =>
        -- Only a misplaced match comes in place of the token set that was consumed.
        have hlast : List.Forall₂ (Both (Error.Alike scanner.rules scanner.source) TokenSet.Alike) _ _ :=
          List.forall₂_take limit (.cons (.error herror) .nil)
        cases herror with
        | misplaced place hrule hrule' => exact .cons (.error (.misplaced place hrule hrule')) .nil
        | unknown | mixed | refused => exact .cons (.ok hset) hlast

/-- Scanners that are alike have as much to scan. -/
theorem remaining_alike (h : scanner.Alike other) : other.remaining = scanner.remaining := by
  obtain ⟨table, current, recorded, told, rfl, -, hcurrent⟩ := h
  have hsome : current.isSome = scanner.current.isSome := by
    generalize scanner.current = mine at hcurrent ⊢
    cases hcurrent <;> rfl
  rw [remaining, remaining, hsome]

end Scanner

/-! ## Texts -/

/-- In every order of the rules a text is cut into the same token sets, or fails the same way. -/
theorem tokenize_alike {table table' : RuleTable} (h : table.rules.Perm table'.rules)
    (source : Source) :
    Both (Error.Alike (table.rulesInMode defaultMode) source) (List.Forall₂ TokenSet.Alike)
      (tokenize table source) (tokenize table' source) := by
  have hinitial : (Scanner.initial table source).Alike (Scanner.initial table' source) :=
    ⟨table', none, none, [], rfl, h, .none⟩
  have hcreate := Scanner.advance_alike hinitial
  rw [tokenize, tokenize, tokenizeAloud, tokenizeAloud, Scanner.create_eq, Scanner.create_eq]
  generalize (Scanner.initial table source).advance = outcome at hcreate ⊢
  generalize (Scanner.initial table' source).advance = outcome' at hcreate ⊢
  cases hcreate with
  | failed herror => exact .error herror
  | @ok scanner other halike hrules hsource =>
    have hpulled := Scanner.pull_alike halike (scanner.remaining + 1)
    rw [hrules, hsource] at hpulled
    simp only [Scanner.pullAll, Scanner.remaining_alike halike]
    exact .mapM_id hpulled

/-- **The order of declarations is of no matter.** Declarations that compile do so in every order. With
the rules in another order a text is cut into token sets at the same places, each of them with the same
tokens in some order; or it fails either way, at the same place for the same reason. -/
theorem tokenize_perm {name : String} {unicode : Bool} {specs specs' : List RuleSpec}
    {table : RuleTable} (h : RuleTable.compile name unicode specs = .ok table)
    (hperm : specs.Perm specs') :
    ∃ table', RuleTable.compile name unicode specs' = .ok table' ∧ ∀ source,
      Both (Error.Alike (table.rulesInMode defaultMode) source) (List.Forall₂ TokenSet.Alike)
        (tokenize table source) (tokenize table' source) := by
  obtain ⟨table', hcompiled, hrules⟩ := RuleTable.compile_perm h hperm
  exact ⟨table', hcompiled, tokenize_alike hrules⟩

/-- A keyword and a name that is tied with it: the text has two token sets, the first with two tokens,
whichever is declared first. -/
theorem tokenize_perm_keyword : ∃ table table',
    RuleTable.compile "words" true [
      { name := "if", matcher := .literal "if" }, { name := "name", matcher := .regex "[a-z]+" },
      { name := "blank", matcher := .regex " +", ignored := true }] = .ok table ∧
    RuleTable.compile "words" true [
      { name := "name", matcher := .regex "[a-z]+" }, { name := "if", matcher := .literal "if" },
      { name := "blank", matcher := .regex " +", ignored := true }] = .ok table' ∧
    (tokenize table (.ofString "if ab")).toOption.map (·.map TokenSet.rules) =
      some [["if", "name"], ["name"]] ∧
    Both (Error.Alike (table.rulesInMode defaultMode) (.ofString "if ab"))
      (List.Forall₂ TokenSet.Alike) (tokenize table (.ofString "if ab"))
      (tokenize table' (.ofString "if ab")) := by
  have hrun : (RuleTable.compile "words" true [
      { name := "if", matcher := .literal "if" }, { name := "name", matcher := .regex "[a-z]+" },
      { name := "blank", matcher := .regex " +", ignored := true }]).toOption.map (fun table =>
        (tokenize table (.ofString "if ab")).toOption.map (·.map TokenSet.rules)) =
          some (some [["if", "name"], ["name"]]) := by decide +kernel
  obtain ⟨table, htable, hsets⟩ := Option.map_eq_some_iff.1 hrun
  obtain ⟨table', htable', hboth⟩ := tokenize_perm (ok_of_toOption htable) (.swap ..)
  exact ⟨table, table', ok_of_toOption htable, htable', hsets, hboth _⟩

end GrammarLang.Scan

import GrammarLang.Proofs.Scan.Advance

/-! # Token sets by maximal munch

`tokenize` cuts a text as `Munch` says: it answers with the token sets of a cut that reaches the end
of the text, or with the reason why the cut goes no further. As a text is cut in one way only
(**`Munch.unique`**), both hold the other way round too (**`tokenize_maximalMunch`**). -/

namespace GrammarLang.Scan

open GrammarLang.Text

/-! ## A text is cut in one way only -/

/-- No text is passed over at the start of `text`. -/
def Unpassable (rules : List Rule) (text : List Char) : Prop :=
  ∀ count, IsLongest rules text count → ∃ rule ∈ tied rules text count, rule.ignored = false

/-- At the end of a text nothing is passed over. -/
theorem unpassable_nil (rules : List Rule) : Unpassable rules [] := by
  intro count h
  have := h.bounds
  simp only [List.length_nil] at this
  omega

/-- At a lexeme nothing is passed over. -/
theorem IsLexeme.unpassable {rules : List Rule} {front rest : List Char}
    (h : IsLexeme rules front rest) : Unpassable rules (front ++ rest) := by
  intro count hcount
  obtain rfl := h.longest.unique hcount
  obtain ⟨rule, hrule⟩ := List.exists_mem_of_ne_nil _ hcount.tied_ne_nil
  exact ⟨rule, hrule, h.kept rule hrule⟩

/-- Where a scan fails nothing is passed over. -/
theorem Fails.unpassable {rules : List Rule} {source : Source} {place : Nat × List Char}
    {error : Error} (h : Fails rules source place error) : Unpassable rules place.2 := by
  cases h with
  | unknown unmatched =>
    intro count hcount
    obtain ⟨rule, hmem, hrule⟩ := hcount.attained
    rw [unmatched rule hmem] at hrule
    contradiction
  | mixed longest ignored kept =>
    intro count hcount
    obtain rfl := longest.unique hcount
    exact kept
  | refused lexeme => exact lexeme.unpassable

/-- A gap ends where no more text is passed over, and nowhere else. -/
theorem Passed.unique {rules : List Rule} {rest rest' gap gap' : List Char}
    (h : Passed rules rest gap) (h' : Passed rules rest' gap') (heq : gap ++ rest = gap' ++ rest')
    (hrest : Unpassable rules rest) (hrest' : Unpassable rules rest') : gap = gap' := by
  induction h generalizing gap' with
  | nil =>
    cases h' with
    | nil => rfl
    | @cons front gap' longest ignored =>
      rw [List.append_assoc] at heq
      rw [← heq, List.nil_append] at longest ignored
      obtain ⟨rule, hmem, hkept⟩ := hrest _ longest
      rw [ignored rule hmem] at hkept
      contradiction
  | @cons front gap longest ignored _ ih =>
    cases h' with
    | nil =>
      rw [← List.append_assoc, heq, List.nil_append] at longest ignored
      obtain ⟨rule, hmem, hkept⟩ := hrest' _ longest
      rw [ignored rule hmem] at hkept
      contradiction
    | @cons front' gap' longest' ignored' further' =>
      rw [List.append_assoc, List.append_assoc] at heq
      have hlength := longest.unique (heq ▸ longest')
      obtain ⟨rfl, htail⟩ := List.append_inj heq hlength
      rw [ih further' htail]

/-- A rule makes one token of a text at most. -/
theorem Reads.unique {offset : Nat} {front : List Char} {rule : Rule} {token token' : Token}
    (h : Reads offset front rule token) (h' : Reads offset front rule token') : token = token' := by
  obtain ⟨value, hvalue, rfl⟩ := h
  obtain ⟨value', hvalue', rfl⟩ := h'
  rw [hvalue] at hvalue'
  cases hvalue'
  rfl

/-- Rules make one list of tokens of a text at most. -/
theorem Reads.unique_list {offset : Nat} {front : List Char} {rules : List Rule}
    {tokens tokens' : List Token} (h : List.Forall₂ (Reads offset front) rules tokens)
    (h' : List.Forall₂ (Reads offset front) rules tokens') : tokens = tokens' := by
  induction h generalizing tokens' with
  | nil => cases h'; rfl
  | cons hfirst _ ih =>
    cases h' with
    | cons hfirst' hothers' => rw [hfirst.unique hfirst', ih hothers']

/-- The rules that make tokens of a text do not refuse it. -/
theorem Reads.accepted {offset : Nat} {front : List Char} {rules : List Rule}
    {tokens : List Token} (h : List.Forall₂ (Reads offset front) rules tokens) {rule : Rule}
    (hrule : rule ∈ rules) : ∃ value, rule.evaluate (String.ofList front) = .ok value := by
  induction h with
  | nil => simp at hrule
  | cons hfirst _ ih =>
    rcases List.mem_cons.1 hrule with rfl | hmem
    · obtain ⟨value, hvalue, -⟩ := hfirst
      exact ⟨value, hvalue⟩
    · exact ih hmem

/-- Every token that rules make of a text is made by one of them. -/
theorem Reads.of_mem {offset : Nat} {front : List Char} {rules : List Rule} {tokens : List Token}
    (h : List.Forall₂ (Reads offset front) rules tokens) {token : Token} (htoken : token ∈ tokens) :
    ∃ rule ∈ rules, Reads offset front rule token := by
  induction h with
  | nil => simp at htoken
  | cons hfirst _ ih =>
    rcases List.mem_cons.1 htoken with rfl | hmem
    · exact ⟨_, List.mem_cons_self, hfirst⟩
    · obtain ⟨rule, hrule, hreads⟩ := ih hmem
      exact ⟨rule, List.mem_cons_of_mem _ hrule, hreads⟩

/-- Where a token set can be made nothing fails. -/
theorem Fails.not_lexeme {rules : List Rule} {source : Source} {place : Nat × List Char}
    {error : Error} (h : Fails rules source place error) {offset : Nat} {front rest : List Char}
    {tokens : List Token} (hplace : place.2 = front ++ rest) (hlexeme : IsLexeme rules front rest)
    (hread : List.Forall₂ (Reads offset front) (tied rules (front ++ rest) front.length) tokens) :
    False := by
  cases h with
  | unknown unmatched =>
    obtain ⟨rule, hmem, hrule⟩ := hlexeme.longest.attained
    rw [← hplace, unmatched rule hmem] at hrule
    contradiction
  | @mixed _ front' rest' longest ignored =>
    simp only at hplace
    obtain ⟨rule, hmem, hignored⟩ := ignored
    rw [hplace] at longest hmem
    rw [longest.unique hlexeme.longest] at hmem
    rw [hlexeme.kept rule hmem] at hignored
    contradiction
  | @refused _ front' rest' before behind rule reason lexeme order accepted refusal =>
    simp only at hplace
    have hlength := lexeme.longest.unique (hplace ▸ hlexeme.longest)
    obtain ⟨rfl, rfl⟩ := List.append_inj hplace hlength
    have hmem : rule ∈ before ++ rule :: behind := by simp
    rw [← order] at hmem
    obtain ⟨value, hvalue⟩ := Reads.accepted hread hmem
    rw [hvalue] at refusal
    contradiction

/-- A match that is misplaced is no reason to fail. -/
theorem Fails.ne_misplaced {rules : List Rule} {source : Source} {place : Nat × List Char}
    {error : Error} (h : Fails rules source place error) (name : String) :
    error ≠ .misplacedMatch name := by
  cases h <;> simp

/-- Where no rule matches there is no longest match. -/
theorem IsLongest.not_unmatched {rules : List Rule} {text : List Char} {count : Nat}
    (h : IsLongest rules text count) (h' : ∀ rule ∈ rules, rule.matchLength? text = none) :
    False := by
  obtain ⟨rule, hmem, hrule⟩ := h.attained
  rw [h' rule hmem] at hrule
  contradiction

/-- The first rule to refuse a text is one and the same. -/
theorem refusing_unique {front : List Char} {before behind before' behind' : List Rule}
    {rule rule' : Rule} {reason reason' : String}
    (heq : before ++ rule :: behind = before' ++ rule' :: behind')
    (hbefore : ∀ other ∈ before, ∃ value, other.evaluate (String.ofList front) = .ok value)
    (hbefore' : ∀ other ∈ before', ∃ value, other.evaluate (String.ofList front) = .ok value)
    (hrule : rule.evaluate (String.ofList front) = .error reason)
    (hrule' : rule'.evaluate (String.ofList front) = .error reason') : rule = rule' := by
  induction before generalizing before' with
  | nil =>
    cases before' with
    | nil => exact (List.cons.inj heq).1
    | cons first' before' =>
      obtain ⟨rfl, -⟩ := List.cons.inj heq
      obtain ⟨value, hvalue⟩ := hbefore' rule List.mem_cons_self
      rw [hvalue] at hrule
      contradiction
  | cons first before ih =>
    cases before' with
    | nil =>
      obtain ⟨rfl, -⟩ := List.cons.inj heq
      obtain ⟨value, hvalue⟩ := hbefore first List.mem_cons_self
      rw [hvalue] at hrule'
      contradiction
    | cons first' before' =>
      exact ih (List.cons.inj heq).2 (fun other hmem => hbefore other (List.mem_cons_of_mem _ hmem))
        fun other hmem => hbefore' other (List.mem_cons_of_mem _ hmem)

/-- Nothing fails at the end of a text. -/
theorem Fails.ne_nil {rules : List Rule} {source : Source} {place : Nat × List Char}
    {error : Error} (h : Fails rules source place error) : place.2 ≠ [] := by
  cases h with
  | unknown => simp
  | mixed longest =>
    intro hnil
    have := longest.bounds
    simp_all
  | refused lexeme =>
    intro hnil
    have := lexeme.longest.bounds
    simp_all

/-- There is one reason to fail at most. -/
theorem Fails.unique {rules : List Rule} {source : Source} {place : Nat × List Char}
    {error error' : Error} (h : Fails rules source place error)
    (h' : Fails rules source place error') : error = error' := by
  obtain ⟨offset, text⟩ := place
  generalize hplace : (offset, text) = place at h h'
  cases h with
  | unknown unmatched =>
    generalize hplace' : (_, _) = place' at h'
    cases h' with
    | unknown => cases hplace'; rfl
    | mixed longest => exact (longest.not_unmatched (by simp_all)).elim
    | refused lexeme => exact (lexeme.longest.not_unmatched (by simp_all)).elim
  | mixed longest ignored kept =>
    generalize hplace' : (_, _) = place' at h'
    cases h' with
    | unknown unmatched => exact (longest.not_unmatched (by simp_all)).elim
    | mixed longest' =>
      obtain ⟨rfl, htext⟩ := Prod.mk.inj hplace'
      obtain ⟨rfl, rfl⟩ := List.append_inj htext (longest.unique (htext ▸ longest'))
      rfl
    | refused lexeme =>
      obtain ⟨rfl, htext⟩ := Prod.mk.inj hplace'
      obtain ⟨rfl, rfl⟩ := List.append_inj htext (longest.unique (htext ▸ lexeme.longest))
      obtain ⟨rule, hmem, hrule⟩ := ignored
      rw [lexeme.kept rule hmem] at hrule
      contradiction
  | refused lexeme order accepted refusal =>
    generalize hplace' : (_, _) = place' at h'
    cases h' with
    | unknown unmatched => exact (lexeme.longest.not_unmatched (by simp_all)).elim
    | mixed longest ignored =>
      obtain ⟨rfl, htext⟩ := Prod.mk.inj hplace'
      obtain ⟨rfl, rfl⟩ := List.append_inj htext (lexeme.longest.unique (htext ▸ longest))
      obtain ⟨rule, hmem, hrule⟩ := ignored
      rw [lexeme.kept rule hmem] at hrule
      contradiction
    | refused lexeme' order' accepted' refusal' =>
      obtain ⟨rfl, htext⟩ := Prod.mk.inj hplace'
      obtain ⟨rfl, rfl⟩ := List.append_inj htext (lexeme.longest.unique (htext ▸ lexeme'.longest))
      rw [order] at order'
      obtain rfl := refusing_unique order' accepted accepted' refusal refusal'
      rw [refusal] at refusal'
      cases refusal'
      rfl

/-- Whether a cut goes no further from a place on. -/
def Stuck (rules : List Rule) (place : Nat × List Char) : Prop :=
  place.2 = [] ∨ ∃ source error, Fails rules source place error

/-- Where a cut goes no further nothing is passed over. -/
theorem Stuck.unpassable {rules : List Rule} {place : Nat × List Char} (h : Stuck rules place) :
    Unpassable rules place.2 := by
  rcases h with hnil | ⟨source, error, hfails⟩
  · rw [hnil]
    exact unpassable_nil rules
  · exact hfails.unpassable

/-- Where a token set can be made a cut goes further. -/
theorem Stuck.not_lexeme {rules : List Rule} {place : Nat × List Char} (h : Stuck rules place)
    {offset : Nat} {front rest : List Char} {tokens : List Token} (hplace : place.2 = front ++ rest)
    (hlexeme : IsLexeme rules front rest)
    (hread : List.Forall₂ (Reads offset front) (tied rules (front ++ rest) front.length) tokens) :
    False := by
  rcases h with hnil | ⟨source, error, hfails⟩
  · have hlongest := hlexeme.longest
    rw [← hplace, hnil] at hlongest
    have := hlongest.bounds
    simp only [List.length_nil] at this
    omega
  · exact hfails.not_lexeme hplace hlexeme hread

/-- A text is cut in one way only, where the cut goes no further. -/
theorem Munch.unique {rules : List Rule} {here stop stop' : Nat × List Char}
    {sets sets' : List TokenSet} (h : Munch rules here sets stop) (h' : Munch rules here sets' stop')
    (hstop : Stuck rules stop) (hstop' : Stuck rules stop') : sets = sets' ∧ stop = stop' := by
  induction h generalizing sets' with
  | @last offset gap rest passed =>
    generalize hplace : (offset, gap ++ rest) = place at h'
    cases h' with
    | last passed' =>
      obtain ⟨rfl, htext⟩ := Prod.mk.inj hplace
      obtain rfl := passed.unique passed' htext hstop.unpassable hstop'.unpassable
      rw [List.append_cancel_left htext]
      exact ⟨rfl, rfl⟩
    | next passed' lexeme read =>
      obtain ⟨rfl, htext⟩ := Prod.mk.inj hplace
      obtain rfl := passed.unique passed' htext hstop.unpassable lexeme.unpassable
      exact (hstop.not_lexeme (List.append_cancel_left htext) lexeme read).elim
  | @next offset gap front rest set sets stop passed lexeme read _ ih =>
    generalize hplace : (offset, gap ++ (front ++ rest)) = place at h'
    cases h' with
    | last passed' =>
      obtain ⟨rfl, htext⟩ := Prod.mk.inj hplace
      obtain rfl := passed.unique passed' htext lexeme.unpassable hstop'.unpassable
      exact (hstop'.not_lexeme (List.append_cancel_left htext).symm lexeme read).elim
    | @next _ gap' front' rest' set' sets' stop' passed' lexeme' read' further' =>
      obtain ⟨rfl, htext⟩ := Prod.mk.inj hplace
      obtain rfl := passed.unique passed' htext lexeme.unpassable lexeme'.unpassable
      have htext := List.append_cancel_left htext
      obtain ⟨rfl, rfl⟩ :=
        List.append_inj htext (lexeme.longest.unique (htext ▸ lexeme'.longest))
      have hset : set = set' := by
        have hlist := Reads.unique_list read read'
        obtain ⟨token, tokens⟩ := set
        obtain ⟨token', tokens'⟩ := set'
        obtain ⟨rfl, rfl⟩ := List.cons.inj hlist
        rfl
      obtain ⟨rfl, rfl⟩ := ih further' hstop
      exact ⟨by rw [hset], rfl⟩

/-! ## The scanner cuts a text so -/

/-- Two cuts, one behind the other, make one. -/
theorem Munch.append {rules : List Rule} {here middle stop : Nat × List Char}
    {sets further : List TokenSet} (h : Munch rules here sets middle)
    (h' : Munch rules middle further stop) : Munch rules here (sets ++ further) stop := by
  induction h with
  | @last offset gap rest passed =>
    generalize hplace : (offset + byteSize gap, rest) = middle at h'
    cases h' with
    | last passed' =>
      obtain ⟨rfl, rfl⟩ := Prod.mk.inj hplace
      rw [← List.append_assoc, Nat.add_assoc, ← byteSize_append]
      exact .last (passed.append passed')
    | next passed' lexeme read further' =>
      obtain ⟨rfl, rfl⟩ := Prod.mk.inj hplace
      rw [Nat.add_assoc offset, ← byteSize_append] at read further'
      rw [← List.append_assoc]
      exact .next (passed.append passed') lexeme read further'
  | next passed lexeme read _ ih => exact .next passed lexeme read (ih h')

namespace Scanner

/-- The rules do not change from one token set to the next. -/
theorem rules_eq {scanner after : Scanner} (htable : after.table = scanner.table)
    (hentered : after.entered = scanner.entered) : after.rules = scanner.rules := by
  rw [rules, rules, mode, mode, htable, hentered]

/-- Where the next token set cannot be scanned, the current one and the failure are pulled. -/
theorem pull_of_next_failed {scanner after : Scanner} {set : TokenSet} {error : Error}
    (hcurrent : scanner.current = some set) (hnext : scanner.next = .failed error after)
    (hplaced : ∀ rule, error ≠ .misplacedMatch rule) (limit : Nat) :
    (scanner.pull (limit + 2)).1 = [.ok set, .error error] := by
  rw [pull, hcurrent, hnext]
  cases error with
  | misplacedMatch rule => exact absurd rfl (hplaced rule)
  | _ => simp

/-- Pulling token sets cuts the text behind the current one. -/
theorem pull_munch {scanner : Scanner} {limit : Nat} (hrules : Anchored scanner.rules)
    (hended : scanner.current = none → scanner.place.rest = []) (hlimit : scanner.remaining < limit) :
    (∀ sets, (scanner.pull limit).1.mapM id = .ok sets →
      ∃ further stop, sets = scanner.current.toList ++ further ∧
        Munch scanner.rules scanner.spot further (stop, [])) ∧
    ∀ error, (scanner.pull limit).1.mapM id = .error error →
      ∃ further place, Munch scanner.rules scanner.spot further place ∧
        Fails scanner.rules scanner.source place error := by
  induction limit generalizing scanner with
  | zero => omega
  | succ limit ih =>
    rw [pull]
    split
    · rename_i hcurrent
      refine ⟨?_, fun error h => by simp [pure, Except.pure] at h⟩
      intro sets hsets
      obtain rfl : [] = sets := by simpa [pure, Except.pure] using hsets
      have hrest := hended hcurrent
      refine ⟨[], scanner.place.offset, by simp [hcurrent], ?_⟩
      rw [spot, hrest]
      exact .last .nil
    · rename_i set hcurrent
      cases hnext : scanner.next with
      | ok value after =>
        obtain ⟨hmunch, htable, hsource, hentered, hafter⟩ := next_munch hrules hnext
        have hsame : after.rules = scanner.rules := rules_eq htable hentered
        have hless := remaining_next hnext (by rw [hcurrent]; rfl)
        obtain ⟨hok, herror⟩ := ih (hsame ▸ hrules) hafter (by omega)
        simp only [List.mapM_cons, id, bind, Except.bind]
        constructor
        · intro sets hsets
          split at hsets
          · contradiction
          · rename_i rest hrest
            obtain ⟨further, stop, rfl, hfurther⟩ := hok rest hrest
            rw [hsame] at hfurther
            cases hsets
            exact ⟨after.current.toList ++ further, stop, by simp [hcurrent],
              hmunch.append hfurther⟩
        · intro error hfailure
          split at hfailure
          · rename_i other hother
            cases hfailure
            obtain ⟨further, place, hfurther, hfails⟩ := herror error hother
            rw [hsame] at hfurther hfails
            rw [hsource] at hfails
            exact ⟨after.current.toList ++ further, place, hmunch.append hfurther, hfails⟩
          · contradiction
      | failed error after =>
        obtain ⟨hmunch, hfails⟩ := next_fails hrules hnext
        obtain ⟨more, rfl⟩ : ∃ more, limit = more + 1 := by
          have : scanner.remaining = scanner.place.left + 1 := by simp [remaining, hcurrent]
          exact ⟨limit - 1, by omega⟩
        have hpull := pull_of_next_failed hcurrent hnext hfails.ne_misplaced more
        rw [pull, hcurrent, hnext] at hpull
        rw [hpull]
        refine ⟨fun sets hsets => ?_, fun other hother => ?_⟩
        · simp [bind, Except.bind] at hsets
        · obtain rfl : error = other := by simpa [bind, Except.bind] using hother
          exact ⟨[], after.spot, hmunch, hfails⟩

end Scanner

/-- A cut of a whole text into token sets, or the reason why it goes no further. -/
theorem tokenize_munch {table : RuleTable} {source : Source}
    (h : Anchored (table.rulesInMode defaultMode)) :
    (∀ sets, tokenize table source = .ok sets →
      ∃ stop, Munch (table.rulesInMode defaultMode) (0, source.chars) sets (stop, [])) ∧
    ∀ error, tokenize table source = .error error →
      ∃ sets place, Munch (table.rulesInMode defaultMode) (0, source.chars) sets place ∧
        Fails (table.rulesInMode defaultMode) source place error := by
  simp only [tokenize, tokenizeAloud, Scanner.create_eq]
  split
  · rename_i error scanner hcreate
    refine ⟨fun sets hsets => by simp at hsets, fun other hother => ?_⟩
    cases hother
    obtain ⟨hmunch, hfails⟩ := Scanner.advance_fails (by simpa using h) hcreate
    exact ⟨[], scanner.spot, hmunch, hfails⟩
  · rename_i value scanner hcreate
    obtain ⟨hmunch, htable, hsource, hentered, hended⟩ :=
      Scanner.advance_munch (by simpa using h) hcreate
    have hrules : scanner.rules = table.rulesInMode defaultMode := Scanner.rules_eq htable hentered
    have hanchored : Anchored scanner.rules := hrules ▸ h
    obtain ⟨hok, herror⟩ :=
      Scanner.pull_munch hanchored hended (Nat.lt_succ_self scanner.remaining)
    rw [hrules] at hok herror
    rw [hsource] at herror
    constructor
    · intro sets hsets
      obtain ⟨further, stop, rfl, hfurther⟩ := hok sets hsets
      exact ⟨stop, hmunch.append hfurther⟩
    · intro error hfailure
      obtain ⟨further, place, hfurther, hfails⟩ := herror error hfailure
      exact ⟨scanner.current.toList ++ further, place, hmunch.append hfurther, hfails⟩

/-! ## The token sets of a text -/

/-- Token sets stand one behind another: all tokens of a set take one stretch of text, which is not
empty, and the next set starts behind it. -/
structure Spread (sets : List TokenSet) : Prop where
  /-- The tokens of a set share their stretch of text. -/
  stretch : ∀ set ∈ sets, ∃ span : Span,
    span.start < span.stop ∧ ∀ token ∈ set.toList, token.span = span
  /-- A set ends before each later one starts. -/
  order : sets.Pairwise fun earlier later => earlier.first.span.stop ≤ later.first.span.start

/-- The text of token sets, each with a gap in front, and a last gap. -/
def assemble (gaps : List (List Char)) (sets : List TokenSet) (last : List Char) : List Char :=
  (List.zipWith (fun gap set => gap ++ set.first.text.toList) gaps sets).flatten ++ last

/-- All tokens of a cut stand behind the place where it starts, in one stretch of text a set. -/
theorem Munch.stretch {rules : List Rule} {here stop : Nat × List Char} {sets : List TokenSet}
    (h : Munch rules here sets stop) : ∀ set ∈ sets, ∃ span : Span,
      here.1 ≤ span.start ∧ span.start < span.stop ∧ ∀ token ∈ set.toList, token.span = span := by
  induction h with
  | last => simp
  | @next offset gap front rest set sets stop passed lexeme read _ ih =>
    intro other hother
    rcases List.mem_cons.1 hother with rfl | hmem
    · refine ⟨⟨offset + byteSize gap, offset + byteSize gap + byteSize front⟩, ?_, ?_, ?_⟩
      · exact Nat.le_add_right _ _
      · have hpos := lexeme.longest.bounds.1
        exact Nat.lt_add_of_pos_right (byteSize_pos (List.ne_nil_of_length_pos hpos))
      · intro token htoken
        obtain ⟨rule, -, value, -, rfl⟩ := Reads.of_mem read htoken
        rfl
    · obtain ⟨span, hstart, hspan⟩ := ih other hmem
      exact ⟨span, by simp only at hstart; omega, hspan⟩

/-- The token sets of a cut are spread out over the text. -/
theorem Munch.spread {rules : List Rule} {here stop : Nat × List Char} {sets : List TokenSet}
    (h : Munch rules here sets stop) : Spread sets := by
  refine ⟨fun set hset => ?_, ?_⟩
  · obtain ⟨span, -, hspan⟩ := h.stretch set hset
    exact ⟨span, hspan⟩
  · induction h with
    | last => exact .nil
    | @next offset gap front rest set sets stop passed lexeme read further ih =>
      refine List.pairwise_cons.2 ⟨fun other hother => ?_, ih⟩
      obtain ⟨span, hstart, -, hspan⟩ := further.stretch other hother
      rw [hspan other.first List.mem_cons_self]
      obtain ⟨token, tokens⟩ := set
      rw [TokenSet.toList_mk, List.forall₂_cons_right_iff] at read
      obtain ⟨rule, rules', ⟨value, -, htoken⟩, -⟩ := read
      rw [htoken]
      exact hstart

/-- The gaps and the token sets of a cut make up the text. -/
theorem Munch.assemble {rules : List Rule} {here stop : Nat × List Char} {sets : List TokenSet}
    (h : Munch rules here sets stop) : ∃ gaps last, gaps.length = sets.length ∧
      here.2 = Scan.assemble gaps sets last ++ stop.2 := by
  induction h with
  | @last offset gap rest => exact ⟨[], gap, rfl, rfl⟩
  | @next offset gap front rest set sets stop passed lexeme read _ ih =>
    obtain ⟨gaps, last, hlength, hrest⟩ := ih
    refine ⟨gap :: gaps, last, by rw [List.length_cons, List.length_cons, hlength], ?_⟩
    obtain ⟨token, tokens⟩ := set
    rw [TokenSet.toList_mk, List.forall₂_cons_right_iff] at read
    obtain ⟨rule, rules', ⟨value, -, rfl⟩, -⟩ := read
    simp only [Scan.assemble] at hrest ⊢
    simp [hrest]

/-- **Tokenizing is maximal munch.** Where rules match at the start of a text only, the token sets
of a text are those of the cut that reaches its end, and a failure is the one that the cut of the
text comes to. The token sets are spread out over the text, and the gaps between them, which are
longest matches of ignoring rules, complete the text. -/
theorem tokenize_maximalMunch (table : RuleTable) (source : Source) (h : Anchored table.rules) :
    (∀ sets, tokenize table source = .ok sets ↔
      ∃ stop, Munch (table.rulesInMode defaultMode) (0, source.chars) sets (stop, [])) ∧
    (∀ error, tokenize table source = .error error ↔
      ∃ sets place, Munch (table.rulesInMode defaultMode) (0, source.chars) sets place ∧
        Fails (table.rulesInMode defaultMode) source place error) ∧
    ∀ sets, tokenize table source = .ok sets → Spread sets ∧
      ∃ gaps last, gaps.length = sets.length ∧ source.chars = assemble gaps sets last := by
  have hrules : Anchored (table.rulesInMode defaultMode) :=
    fun rule hmem => h rule (List.mem_filter.1 hmem).1
  obtain ⟨hok, herror⟩ := tokenize_munch hrules
  refine ⟨fun sets => ⟨hok sets, ?_⟩, fun error => ⟨herror error, ?_⟩, fun sets hsets => ?_⟩
  · rintro ⟨stop, hmunch⟩
    cases htokens : tokenize table source with
    | ok other =>
      obtain ⟨stop', hmunch'⟩ := hok other htokens
      rw [(hmunch.unique hmunch' (.inl rfl) (.inl rfl)).1]
    | error error =>
      obtain ⟨other, place, hmunch', hfails⟩ := herror error htokens
      obtain ⟨-, rfl⟩ := hmunch.unique hmunch' (.inl rfl) (.inr ⟨source, error, hfails⟩)
      exact (hfails.ne_nil rfl).elim
  · rintro ⟨sets, place, hmunch, hfails⟩
    cases htokens : tokenize table source with
    | ok other =>
      obtain ⟨stop, hmunch'⟩ := hok other htokens
      obtain ⟨-, rfl⟩ := hmunch.unique hmunch' (.inr ⟨source, error, hfails⟩) (.inl rfl)
      exact (hfails.ne_nil rfl).elim
    | error error' =>
      obtain ⟨other, place', hmunch', hfails'⟩ := herror error' htokens
      obtain ⟨-, rfl⟩ :=
        hmunch.unique hmunch' (.inr ⟨source, error, hfails⟩) (.inr ⟨source, error', hfails'⟩)
      rw [hfails.unique hfails']
  · obtain ⟨stop, hmunch⟩ := hok sets hsets
    obtain ⟨gaps, last, hlength, hchars⟩ := hmunch.assemble
    exact ⟨hmunch.spread, gaps, last, hlength, by simpa using hchars⟩

/-- A text of words with blanks between them is cut so. -/
theorem tokenize_maximalMunch_words : ∃ table sets stop,
    RuleTable.compile "words" true [{ name := "word", matcher := .regex "[a-z]+" },
      { name := "if", matcher := .literal "if" },
      { name := "blank", matcher := .regex " +", ignored := true }] = .ok table ∧
    Anchored table.rules ∧ tokenize table (.ofString "if so") = .ok sets ∧
    Munch (table.rulesInMode defaultMode) (0, "if so".toList) sets (stop, []) := by
  have hrun : (RuleTable.compile "words" true [{ name := "word", matcher := .regex "[a-z]+" },
      { name := "if", matcher := .literal "if" },
      { name := "blank", matcher := .regex " +", ignored := true }]).toOption.any (fun table =>
        table.rules.all (·.regex.expr.anchored) &&
          (tokenize table (.ofString "if so")).toOption.isSome) = true := by decide +kernel
  obtain ⟨table, htable, htokens⟩ := (Option.any_eq_true _ _).1 hrun
  obtain ⟨hanchored, htokens⟩ := Bool.and_eq_true_iff.1 htokens
  have hrules : Anchored table.rules := anchored_of_expr (List.all_eq_true.1 hanchored)
  obtain ⟨sets, hsets⟩ := Option.isSome_iff_exists.1 htokens
  have hsets := ok_of_toOption hsets
  obtain ⟨stop, hmunch⟩ := ((tokenize_maximalMunch table _ hrules).1 sets).1 hsets
  exact ⟨table, sets, stop, ok_of_toOption htable, hrules, hsets, hmunch⟩

end GrammarLang.Scan

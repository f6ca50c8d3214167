import GrammarLang.Proofs.Grammar.ParsedTerminals
import GrammarLang.Proofs.Grammar.Writable

/-! # How written parts open and go on

Each component that is written opens with a word that tells it from everything that may stand behind
a component: **`Opens`**. What stands behind a component is another one or the end of a branch, a
blank apart: **`GoesOn`**. -/

namespace GrammarLang.Grammar

open GrammarLang.Scan GrammarLang.Text

open Lexicon (ident number string)

/-- A character that the terminal may start with, among terminals. -/
def Terminal.leads : Terminal → Char → Bool
  | ident _ => isNameStart
  | string _ => (· = '\"')
  | number _ => isDigit
  | set _ => (· = '/')

/-- A character that an element may start with. -/
def startsElement (c : Char) : Bool :=
  c = '~' || c = '(' || c = '\"' || c = '/' || isDigit c || isNameStart c

/-- A character that a component may start with: there may be code in front of its element. -/
def startsComponent (c : Char) : Bool := c = '\x7b' || startsElement c

/-- A character that ends a branch. -/
def endsBranch (c : Char) : Bool := c = '|' || c = ';' || c = ')'

/-- The text starts with a word that one of these characters leads. -/
def LedBy (leads : Char → Bool) (text : List Char) : Prop :=
  ∃ names c cs rest, Meets text names (c :: cs) rest ∧ leads c = true

/-- The text opens with a component. -/
abbrev Opens : List Char → Prop := LedBy startsComponent

/-- The text goes on behind a component. -/
structure GoesOn (text : List Char) : Prop where
  /-- There is a blank in front. -/
  blank : ∃ cs, text = ' ' :: cs
  /-- Another component comes next, or the branch ends. -/
  led : LedBy (fun c => startsComponent c || endsBranch c) text

namespace LedBy

variable {leads : Char → Bool} {text : List Char}

theorem readable (h : LedBy leads text) : Readable text := by
  obtain ⟨names, c, cs, rest, hmeets, -⟩ := h
  exact hmeets.readable

theorem space (h : LedBy leads text) : LedBy leads (' ' :: text) := by
  obtain ⟨names, c, cs, rest, hmeets, hc⟩ := h
  exact ⟨names, c, cs, rest, hmeets.space, hc⟩

theorem newline (h : LedBy leads text) : LedBy leads ('\n' :: text) := by
  obtain ⟨names, c, cs, rest, hmeets, hc⟩ := h
  exact ⟨names, c, cs, rest, hmeets.newline, hc⟩

theorem mono {leads' : Char → Bool} (h : LedBy leads text)
    (himp : ∀ c, leads c = true → leads' c = true) : LedBy leads' text := by
  obtain ⟨names, c, cs, rest, hmeets, hc⟩ := h
  exact ⟨names, c, cs, rest, hmeets, himp c hc⟩

/-- The character that leads the text is one of them. -/
theorem exists_lead (h : LedBy leads text) : ∃ c, lead text = some c ∧ leads c = true := by
  obtain ⟨names, c, cs, rest, hmeets, hc⟩ := h
  exact ⟨c, hmeets.lead_eq, hc⟩

/-- What none of the characters tells does not come next. -/
theorem lead_any_eq_false {told : Char → Bool} (h : LedBy leads text)
    (hnone : ∀ c, leads c = true → told c = false) : (lead text).any told = false := by
  obtain ⟨c, hlead, hc⟩ := h.exists_lead
  rw [hlead, Option.any_some, hnone c hc]

end LedBy

/-- A text that a sign opens. -/
theorem ledBy_sign {leads : Char → Bool} {c : Char} (hc : c ∈ signChars) (hleads : leads c = true)
    (cs : List Char) : LedBy leads (c :: cs) :=
  ⟨_, c, [], cs, Meets.sign hc cs, hleads⟩

/-- Behind a component, the end of a branch is a sign with a blank in front. -/
theorem goesOn_sign {c : Char} (hc : c ∈ signChars) (hends : endsBranch c = true)
    (cs : List Char) : GoesOn (' ' :: c :: cs) :=
  ⟨⟨_, rfl⟩, (ledBy_sign hc (by rw [hends, Bool.or_true]) cs).space⟩

/-- Behind a component, another component has a blank in front. -/
theorem Opens.goesOn {text : List Char} (h : Opens text) : GoesOn (' ' :: text) :=
  ⟨⟨_, rfl⟩, (h.mono fun c hc => by rw [hc, Bool.true_or]).space⟩

theorem GoesOn.apart {text : List Char} (h : GoesOn text) : Apart text := by
  obtain ⟨cs, rfl⟩ := h.blank
  exact apart_cons (by decide) cs

/-- A name with a blank behind it is a word. -/
theorem meets_spaced {name : List Char} (hname : IsName name) (cs : List Char) :
    Meets (name ++ ' ' :: cs) (namesOfName name) name (' ' :: cs) :=
  Meets.name hname (apart_cons (by decide) cs)

/-! ## Elements and components -/

theorem Terminal.render_set (set : RegexSet) :
    (Terminal.set set).render = "/" ++ set.source ++ "/" ++ set.flags := rfl

/-- What is written between the lower bound of a range and the closing brace. -/
def upperText (lower : UInt64) : Option UInt64 → List Char
  | none => [',']
  | some upper => if lower = upper then [] else ',' :: (toString upper.toNat).toList

theorem Suffix.toList_render_range (lower : UInt64) (upper : Option UInt64) :
    (Suffix.range lower upper).render.toList =
      '\x7b' :: ((toString lower.toNat).toList ++ (upperText lower upper ++ ['\x7d'])) := by
  cases upper with
  | none =>
    have hrender : (Suffix.range lower none).render = "\x7b" ++ toString lower.toNat ++ ",\x7d" := rfl
    simp [hrender, upperText]
  | some upper =>
    by_cases heq : lower = upper
    · have hrender : (Suffix.range lower (some upper)).render =
          "\x7b" ++ toString lower.toNat ++ "\x7d" := if_pos heq
      rw [hrender, upperText, if_pos heq]
      simp
    · have hrender : (Suffix.range lower (some upper)).render =
          "\x7b" ++ toString lower.toNat ++ "," ++ toString upper.toNat ++ "\x7d" := if_neg heq
      simp [hrender, upperText, heq]

variable {arena : Arena} {rest : List Char}

/-- Components in front of a blank start with a blank. -/
theorem components_blank (arena : Arena) (components : List Component) (cs : List Char) :
    ∃ text, (renderComponents arena components).toList ++ ' ' :: cs = ' ' :: text := by
  cases components with
  | nil => exact ⟨cs, rfl⟩
  | cons first others => exact ⟨_, by simp [renderComponents]; rfl⟩

/-- Branches in front of a blank start with a blank. -/
theorem branches_blank (arena : Arena) (branches : List Branch) (cs : List Char) :
    ∃ text, (renderBranches arena branches).toList ++ ' ' :: cs = ' ' :: text := by
  match branches with
  | [] => exact ⟨cs, rfl⟩
  | [⟨_, components⟩] => exact components_blank arena components cs
  | ⟨_, components⟩ :: second :: others =>
    obtain ⟨text, htext⟩ := components_blank arena components
      ('|' :: ((renderBranches arena (second :: others)).toList ++ ' ' :: cs))
    exact ⟨text, by simpa [renderBranches, Branch.render] using htext⟩

/-- The expression of a set that can be written has been read. -/
theorem Terminal.Writable.setLiteral {set : RegexSet} (h : (Terminal.set set).Writable) :
    SetLiteral set.source set.flags := by
  obtain ⟨source, grammar, other, hparse, hmem, hsource, hflags⟩ := h
  rw [← hsource, ← hflags]
  exact (tidy_of_parse hparse).literals other hmem

theorem startsElement_of_leads {terminal : Terminal} {c : Char} (hc : terminal.leads c = true) :
    startsElement c = true := by
  cases terminal with
  | ident | number =>
    rw [Terminal.leads] at hc
    simp [startsElement, hc]
  | string | set =>
    rw [of_decide_eq_true hc]
    decide

/-- A terminal starts with one of the characters that lead such terminals. -/
theorem Terminal.Writable.ledBy {terminal : Terminal} (h : terminal.Writable) (hapart : Apart rest) :
    LedBy terminal.leads (terminal.render.toList ++ rest) := by
  cases terminal with
  | ident name =>
    obtain ⟨c, cs, hname, hc, hcs⟩ := h
    have hmeets := Meets.name ⟨c, cs, hname, hc, hcs⟩ hapart
    rw [render, hname] at *
    exact ⟨_, c, cs, rest, hmeets, hc⟩
  | string value =>
    have hmeets := Meets.quote value rest
    rw [render, String.toList_ofList]
    exact ⟨_, _, _, rest, hmeets, rfl⟩
  | number value =>
    obtain ⟨c, cs, hdigits, hall⟩ := exists_digits value
    have hmeets := Meets.toString value hapart
    rw [hdigits] at hmeets
    rw [render, hdigits]
    exact ⟨_, c, cs, rest, hmeets, hall c List.mem_cons_self⟩
  | set set =>
    obtain ⟨c, cs, hsource, hline, hblock⟩ := h.setLiteral.opens
    have hmeets := Meets.slash hline hblock (cs ++ '/' :: (set.flags.toList ++ rest))
    have htext : (render (.set set)).toList ++ rest =
        '/' :: c :: (cs ++ '/' :: (set.flags.toList ++ rest)) := by
      simp [render_set, hsource]
    rw [htext]
    exact ⟨_, '/', [], _, hmeets, rfl⟩

/-- A character that a suffix starts with. -/
def startsSuffix (c : Char) : Bool := c = '*' || c = '+' || c = '?' || c = '\x7b'

theorem mem_signChars_of_startsSuffix {c : Char} (hc : startsSuffix c = true) : c ∈ signChars := by
  simp only [startsSuffix, Bool.or_eq_true, decide_eq_true_eq] at hc
  rcases hc with ((rfl | rfl) | rfl) | rfl <;> decide

theorem Suffix.exists_sign (suffix : Suffix) :
    ∃ c cs, suffix.render.toList = c :: cs ∧ startsSuffix c = true := by
  cases suffix with
  | zeroOrMore => exact ⟨'*', [], rfl, by decide⟩
  | oneOrMore => exact ⟨'+', [], rfl, by decide⟩
  | optional => exact ⟨'?', [], rfl, by decide⟩
  | range lower upper => exact ⟨'\x7b', _, toList_render_range lower upper, by decide⟩

/-- Suffixes as they are written. -/
def renderSuffixes (suffixes : List Suffix) : String := String.join (suffixes.map Suffix.render)

@[simp] theorem renderSuffixes_nil : renderSuffixes [] = "" := rfl

@[simp] theorem toList_renderSuffixes_cons (first : Suffix) (others : List Suffix) :
    (renderSuffixes (first :: others)).toList =
      first.render.toList ++ (renderSuffixes others).toList := by
  simp [renderSuffixes]

/-- Behind an element comes a suffix or what goes on behind the component. -/
theorem ledBy_suffixes (suffixes : List Suffix) (hrest : GoesOn rest) :
    LedBy (fun c => startsSuffix c || (startsComponent c || endsBranch c))
      ((renderSuffixes suffixes).toList ++ rest) := by
  cases suffixes with
  | nil => exact hrest.led.mono fun c hc => by rw [hc, Bool.or_true]
  | cons first others =>
    obtain ⟨c, cs, hfirst, hc⟩ := first.exists_sign
    rw [toList_renderSuffixes_cons, hfirst]
    exact ledBy_sign (mem_signChars_of_startsSuffix hc) (by rw [hc, Bool.true_or]) _

/-- Suffixes do not go on with a name. -/
theorem apart_suffixes (suffixes : List Suffix) (hapart : Apart rest) :
    Apart ((renderSuffixes suffixes).toList ++ rest) := by
  cases suffixes with
  | nil => exact hapart
  | cons first others =>
    obtain ⟨c, cs, hfirst, hc⟩ := first.exists_sign
    rw [toList_renderSuffixes_cons, hfirst]
    have hnames : ∀ c ∈ signChars, isNameChar c = false := List.all_iff_forall_prop.1 (by decide)
    exact apart_cons (hnames c (mem_signChars_of_startsSuffix hc)) _

theorem ledBy_group (arena : Arena) (kind : GroupKind) (branches : List Branch) (rest : List Char) :
    LedBy (· = '(') ((Element.render arena (.group kind branches)).toList ++ rest) := by
  obtain ⟨text, htext⟩ := branches_blank arena branches (')' :: rest)
  have hmeets := Meets.opening kind text
  have heq : (Element.render arena (.group kind branches)).toList ++ rest =
      kind.opening.toList ++ ' ' :: text := by
    simp [Element.render, ← htext]
  rw [heq]
  obtain ⟨cs, hopening⟩ : ∃ cs, kind.opening.toList = '(' :: cs := by
    cases kind <;> exact ⟨_, rfl⟩
  rw [hopening] at hmeets ⊢
  exact ⟨_, '(', cs, _, hmeets, rfl⟩

theorem ledBy_negation (arena : Arena) (inner : Element) (rest : List Char) :
    LedBy (· = '~') ((Element.render arena (.negation inner)).toList ++ rest) := by
  have htext : (Element.render arena (.negation inner)).toList ++ rest =
      '~' :: ((inner.render arena).toList ++ rest) := by
    simp [Element.render]
  rw [htext]
  exact ledBy_sign (by decide) rfl _

/-- An element that can be written starts as elements do. -/
theorem Element.Writable.ledBy {element : Element} (h : element.Writable arena)
    (hapart : Apart rest) : LedBy startsElement ((element.render arena).toList ++ rest) := by
  cases element with
  | terminal id =>
    obtain ⟨terminal, hget, hterminal⟩ := h
    rw [render, Arena.renderAt, hget]
    exact (hterminal.ledBy hapart).mono fun c => startsElement_of_leads
  | group kind branches =>
    refine (ledBy_group arena kind branches rest).mono fun c hc => ?_
    rw [of_decide_eq_true hc]
    decide
  | negation inner =>
    refine (ledBy_negation arena inner rest).mono fun c hc => ?_
    rw [of_decide_eq_true hc]
    decide

/-! ## Components -/

/-- Code in front of an element, with a sign behind it that says what it is for. -/
def frontText (code : Option CodeSegment) (mark : List Char) : List Char :=
  code.elim [] fun code => '\x7b' :: (code.text.toList ++ '\x7d' :: mark ++ [' '])

/-- A label with its sign. -/
def labelText (label : Option String) : List Char := label.elim [] fun name => name.toList ++ ['=']

/-- Code behind an element. -/
def behindText (code : Option CodeSegment) : List Char :=
  code.elim [] fun code => ' ' :: '\x7b' :: (code.text.toList ++ ['\x7d'])

/-- A component as it is written, in front of other text. -/
theorem Component.toList_render (arena : Arena) (component : Component) :
    (component.render arena).toList = frontText component.predicate ['?'] ++
      (frontText component.codeBefore [] ++ (labelText component.label ++
        ((component.element.render arena).toList ++
          ((renderSuffixes component.suffixes).toList ++ behindText component.codeAfter)))) := by
  obtain ⟨span, label, predicate, codeBefore, element, suffixes, codeAfter⟩ := component
  cases label <;> cases predicate <;> cases codeBefore <;> cases codeAfter <;>
    simp [render, renderSuffixes, frontText, labelText, behindText, CodeSegment.render]

/-- A label, or else the element, starts as elements do. -/
theorem ledBy_label {label : Option String} {text : List Char}
    (hlabel : ∀ name ∈ label, IsName name.toList) (h : LedBy startsElement text) :
    LedBy startsElement (labelText label ++ text) := by
  cases label with
  | none => exact h
  | some name =>
    have hname := hlabel name rfl
    have hmeets := Meets.name hname (apart_cons (by decide : isNameChar '=' = false) text)
    obtain ⟨c, cs, hcons, hc, -⟩ := hname
    rw [labelText, Option.elim_some, List.append_assoc, List.singleton_append]
    rw [hcons] at hmeets ⊢
    exact ⟨_, c, cs, _, hmeets, by simp [startsElement, hc]⟩

/-- Code opens a component, or else what stands behind it does. -/
theorem opens_front (code : Option CodeSegment) (mark : List Char) {text : List Char}
    (h : Opens text) : Opens (frontText code mark ++ text) := by
  cases code with
  | none => exact h
  | some code => exact ledBy_sign (by decide) (by decide) _

/-- Code behind an element goes on as components do, or else what stands behind it. -/
theorem goesOn_behind (code : Option CodeSegment) {text : List Char} (h : GoesOn text) :
    GoesOn (behindText code ++ text) := by
  cases code with
  | none => exact h
  | some code =>
    have hopens : Opens ('\x7b' :: (code.text.toList ++ ['\x7d'] ++ text)) :=
      ledBy_sign (by decide) (by decide) _
    exact hopens.goesOn

/-- What stands in a component behind the code in front starts as elements do. -/
theorem Component.Writable.ledBy {component : Component} (h : component.Writable arena)
    (hrest : GoesOn rest) : LedBy startsElement (labelText component.label ++
      ((component.element.render arena).toList ++ ((renderSuffixes component.suffixes).toList ++
        (behindText component.codeAfter ++ rest)))) := by
  obtain ⟨span, label, predicate, codeBefore, element, suffixes, codeAfter⟩ := component
  obtain ⟨-, hlabel, helement, -⟩ := h
  exact ledBy_label hlabel (helement.ledBy (apart_suffixes suffixes
    (goesOn_behind codeAfter hrest).apart))

/-- A component that can be written opens as components do. -/
theorem Component.Writable.opens {component : Component} (h : component.Writable arena)
    (hrest : GoesOn rest) : Opens ((component.render arena).toList ++ rest) := by
  have hstarts (c : Char) (hc : startsElement c = true) : startsComponent c = true := by
    rw [startsComponent, hc, Bool.or_true]
  have hfront := opens_front component.predicate ['?']
    (opens_front component.codeBefore [] ((h.ledBy hrest).mono hstarts))
  rw [toList_render]
  simpa using hfront

/-- Where a component without code in front opens, there is no brace. -/
theorem Component.Writable.ledBy_of_bare {component : Component} (h : component.Writable arena)
    (hbare : component.Bare) (hrest : GoesOn rest) :
    LedBy startsElement ((component.render arena).toList ++ rest) := by
  have hbehind := h.ledBy hrest
  rw [toList_render, hbare.1, hbare.2]
  simpa [frontText] using hbehind

/-- What stands behind the suffixes of a component is no range. -/
theorem behindText_unnumbered {codeAfter : Option CodeSegment}
    (hcode : ∀ code ∈ codeAfter, code.Closed ∧ code.Unnumbered)
    (hbare : codeAfter = none → (lead rest).any (· = '\x7b') = false) (cs : List Char)
    (hgap : behindGap (behindText codeAfter ++ rest) = '\x7b' :: cs) :
    (lead cs).any isDigit = false := by
  cases codeAfter with
  | none =>
    have hlead : (lead rest).any (· = '\x7b') = true := by
      rw [lead, show behindGap rest = '\x7b' :: cs from hgap]
      rfl
    rw [hbare rfl] at hlead
    contradiction
  | some code =>
    have hopening : '\x7b' ∈ signChars := by decide
    have htext : behindText (some code) ++ rest =
        ' ' :: '\x7b' :: (code.text.toList ++ '\x7d' :: rest) := by simp [behindText]
    rw [htext, behindGap_space, (Meets.sign hopening _).gap_eq] at hgap
    obtain rfl := (List.cons.inj hgap).2
    exact (hcode code rfl).2 rest

/-- Components in front of what goes on go on themselves. -/
theorem goesOn_components {components : List Component} (h : WritableComponents arena components)
    (hrest : GoesOn rest) : GoesOn ((renderComponents arena components).toList ++ rest) := by
  cases components with
  | nil => exact hrest
  | cons first others =>
    obtain ⟨hfirst, hothers, -⟩ := h
    simpa [renderComponents] using (hfirst.opens (goesOn_components hothers hrest)).goesOn

/-- Where components without code in front of the first one stand, no brace comes next. -/
theorem not_brace_of_bare {components : List Component} (h : WritableComponents arena components)
    (hbare : ∀ first ∈ components.head?, first.Bare) (hrest : GoesOn rest)
    (hnot : (lead rest).any (· = '\x7b') = false) :
    (lead ((renderComponents arena components).toList ++ rest)).any (· = '\x7b') = false := by
  cases components with
  | nil => exact hnot
  | cons first others =>
    obtain ⟨hfirst, hothers, -⟩ := h
    have hled := (hfirst.ledBy_of_bare (hbare first rfl) (goesOn_components hothers hrest)).space
    have hbrace : ∀ c, startsElement c = true → decide (c = '\x7b') = false := by
      intro c hc
      refine decide_eq_false ?_
      rintro rfl
      revert hc
      decide
    rw [renderComponents]
    simpa using hled.lead_any_eq_false hbrace

/-- Branches in front of what goes on go on themselves. -/
theorem goesOn_branches {branches : List Branch} (h : WritableBranches arena branches)
    (hrest : GoesOn rest) : GoesOn ((renderBranches arena branches).toList ++ rest) := by
  match branches with
  | [] => exact hrest
  | [⟨_, components⟩] => exact goesOn_components (And.left h) hrest
  | ⟨_, components⟩ :: second :: others =>
    have hbar := goesOn_sign (c := '|') (by decide) (by decide)
      ((renderBranches arena (second :: others)).toList ++ rest)
    simpa [renderBranches, Branch.render] using goesOn_components (And.left h) hbar

end GrammarLang.Grammar

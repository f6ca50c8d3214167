import GrammarLang.Regex.Escape
import GrammarLang.Unicode.Recent

/-! # Reading patterns

**`Pattern.ofText?`** reads the text of a pattern. The text is read from left to right; what has
been read so far is kept as **`Progress`**: the groups and brackets that are still open, and what
stands in the innermost of them. -/

namespace GrammarLang.Regex

open Reader

/-- A group that is still open, with what stood before it. -/
structure OpenGroup where
  /-- The number of the group, if it has one. -/
  number : Option Nat
  /-- The flags that hold inside the group. -/
  settings : List FlagSetting
  /-- The branches before the one that holds the group, latest first. -/
  branches : List Pattern
  /-- What stands before the group in its branch, latest first. -/
  items : List Pattern
  /-- Whether the pattern is spaced out around the group. -/
  spacedOut : Bool

/-- A bracket that is still open. -/
structure OpenBracket where
  /-- Whether the bracket asks for the complement. -/
  negated : Bool
  /-- The left side of an operator, and the operator. -/
  pending : Option (SetOp × ClassTree)
  /-- The members behind the last operator, latest first. -/
  items : List ClassTree

namespace OpenBracket

/-- One more member. -/
def add (bracket : OpenBracket) (item : ClassTree) : OpenBracket :=
  { bracket with items := item :: bracket.items }

/-- All that the bracket holds so far. -/
def contents (bracket : OpenBracket) : ClassTree :=
  let members := ClassTree.unions bracket.items.reverse
  match bracket.pending with
  | none => members
  | some (kind, left) => .op kind left members

end OpenBracket

/-- What has been read of a pattern. -/
structure Progress where
  /-- The open groups, innermost first. -/
  groups : List OpenGroup
  /-- The finished branches of the innermost group, latest first. -/
  branches : List Pattern
  /-- What stands in the current branch, latest first. -/
  items : List Pattern
  /-- Whether the pattern is spaced out here. -/
  spacedOut : Bool
  /-- How many groups with a number were opened so far. -/
  numbered : Nat
  /-- The names of groups so far. -/
  names : List String
  /-- The open brackets, innermost first. -/
  brackets : List OpenBracket

namespace Progress

/-- Nothing read yet. -/
def initial (spacedOut : Bool) : Progress := ⟨[], [], [], spacedOut, 0, [], []⟩

/-- One more item in the current branch. -/
def add (progress : Progress) (item : Pattern) : Progress :=
  { progress with items := item :: progress.items }

/-- All branches of the innermost group. -/
def contents (progress : Progress) : Pattern :=
  .choice (.sequence progress.items.reverse :: progress.branches).reverse

/-- The pattern, once all its text is read: no group or bracket may be open. -/
def finish? (progress : Progress) : Option Pattern :=
  if progress.groups.isEmpty && progress.brackets.isEmpty then some progress.contents else none

end Progress

/-- The settings that the letters of a flag group ask for, where a hyphen switches off what follows.
No letter or hyphen may occur twice, and the hyphen may not come last. -/
def flagSettings? (letters : List Char) : Option (List FlagSetting) := do
  guard (letters.getLast? ≠ some '-')
  guard letters.Nodup
  let flagOf? (letter : Char) : Option Flag :=
    match letter with
    | 'i' => some .anyCase
    | 'm' => some .multiLine
    | 's' => some .dotAll
    | 'U' => some .swapGreed
    | 'u' => some .unicode
    | 'R' => some .anyLineEnd
    | 'x' => some .spacedOut
    | _ => none
  let on ← (letters.takeWhile (· ≠ '-')).mapM flagOf?
  let off ← ((letters.dropWhile (· ≠ '-')).drop 1).mapM flagOf?
  return on.map (⟨·, true⟩) ++ off.map (⟨·, false⟩)

/-- Whether the pattern is spaced out once some flags are set. -/
def spacedOutAfter (settings : List FlagSetting) (spacedOut : Bool) : Bool :=
  match settings.find? (·.flag = .spacedOut) with
  | some setting => setting.on
  | none => spacedOut

/-- Whether some characters make a name for a group. -/
def isGroupName (name : List Char) : Bool :=
  match name with
  | [] => false
  | c :: cs =>
    (c = '_' || Unicode.isAlphabetic c) &&
      cs.all fun c =>
        c = '_' || c = '.' || c = '[' || c = ']' || Unicode.isAlphabetic c || Unicode.isNumeric c

/-- What an opening parenthesis starts. -/
inductive GroupHead
  /-- A group with a number. -/
  | numbered
  /-- A group without a number, with the flags that hold inside it. -/
  | plain (settings : List FlagSetting)
  /-- A group with a number and a name. -/
  | named (name : String)
  /-- Flags for the rest of the group around. -/
  | flags (settings : List FlagSetting)

/-- Reads what follows an opening parenthesis, up to the contents of the group. Looking ahead or
behind is refused. -/
def readGroupHead (spacedOut : Bool) : Reader GroupHead := do
  spacing spacedOut
  let text ← ahead
  require (["?=", "?!", "?<=", "?<!"].all fun mark => !mark.toList.isPrefixOf text)
  let named ← accept "?P<".toList
  let named ← if named then pure true else accept "?<".toList
  if named then
    let name ← takeWhile (· ≠ '>')
    require (← accept ['>'])
    require (isGroupName name)
    return .named (String.ofList name)
  else if ← accept ['?'] then
    let letters ← takeWhile fun c => c ≠ ':' && c ≠ ')'
    let settings ← ofOption (flagSettings? letters)
    if (← next) = ')' then
      require (!settings.isEmpty)
      return .flags settings
    else return .plain settings
  else return .numbered

/-- Reads the mark of a reluctant repetition, if there is one. -/
def readReluctant : Reader Bool := accept ['?']

/-- The last item of the branch, to be repeated: there must be one, and flags are none. -/
def Progress.takeLast? (progress : Progress) : Option (Pattern × Progress) :=
  match progress.items with
  | [] => none
  | .flags _ :: _ => none
  | .empty :: _ => none
  | item :: items => some (item, { progress with items := items })

/-- Repeats the last item of the branch. -/
def Progress.repeatLast (progress : Progress) (counts : Reader (Nat × Option Nat))
    (spaceBeforeMark : Bool) : Reader Progress := do
  let (item, others) ← ofOption progress.takeLast?
  let (least, most) ← counts
  spacing spaceBeforeMark
  let reluctant ← readReluctant
  return others.add (.repeated item least most reluctant)

/-- Reads one character of a class, from behind its first character `c`: it may be an escape. -/
def readClassItem (spacedOut : Bool) (c : Char) : Reader Pattern := do
  if c = '\\' then readEscape spacedOut else return .literal ⟨c, false⟩

/-- The character behind the one that `text` follows. Where the pattern is spaced out, blanks are
passed over, and a number sign with the blanks behind it; if nothing else follows, it is the first
character of the text. -/
def behind? (spacedOut : Bool) (text : List Char) : Option Char :=
  if spacedOut then
    match text.dropWhile Unicode.isBlank with
    | [] => text.head?
    | '#' :: rest => (rest.dropWhile Unicode.isBlank).head?.or text.head?
    | c :: _ => some c
  else text.head?

/-- Reads a member of a class or a range of members, from behind its first character `c`. A hyphen
makes a range unless it closes the class or starts an operator. -/
def readClassMember (spacedOut : Bool) (c : Char) : Reader ClassTree := do
  let first ← readClassItem spacedOut c
  spacing spacedOut
  let text ← ahead
  require (!text.isEmpty)
  let after := behind? spacedOut (text.drop 1)
  if text.head? ≠ some '-' || after = some ']' || after = some '-' then
    match first with
    | .literal member => return .literal member
    | .cls tree => return tree
    | _ => refuse
  else
    let _ ← next
    spacing spacedOut
    match first, ← readClassItem spacedOut (← next) with
    | .literal first, .literal last =>
      require (first.char ≤ last.char)
      return .range first last
    | _, _ => refuse

/-- Reads the beginning of a bracket, from behind the bracket itself: a caret, then hyphens, or a
closing bracket that stands for itself. -/
def readBracketHead (spacedOut : Bool) : Reader OpenBracket := do
  spacing spacedOut
  let negated ← accept ['^']
  if negated then spacing spacedOut
  let hyphens ← takeSpaced spacedOut (· = '-')
  let bracket : OpenBracket := ⟨negated, none, hyphens.map fun c => .literal ⟨c, false⟩⟩
  -- The closing bracket must stay unread behind hyphens.
  if hyphens.isEmpty then
    if ← accept [']'] then
      spacing spacedOut
      return bracket.add (.literal ⟨']', false⟩)
    else return bracket
  else return bracket

/-- A class with a name between colons, in brackets of its own whose first one is read already, and
the text behind it. -/
def namedClass? (text : List Char) : Option (ClassTree × List Char) := do
  let text ← match text with
    | ':' :: rest => some rest
    | _ => none
  let (negated, text) := match text with
    | '^' :: rest => (true, rest)
    | _ => (false, text)
  let (name, rest) ← cutAt? [':'] text
  let rest ← match rest with
    | ']' :: rest => some rest
    | _ => none
  let kind ← NamedClass.ofName? (String.ofList name)
  return (.named kind negated, rest)

/-- Reads a class with a name between colons if there is one. -/
def readNamedClass? : Reader (Option ClassTree) := do
  let text ← ahead
  match namedClass? text with
  | none => return none
  | some (tree, rest) =>
    skip (text.length - rest.length)
    return some tree

/-- The operator that a character makes when it is doubled. -/
def setOp? (c : Char) : Option SetOp :=
  match c with
  | '&' => some .inter
  | '-' => some .diff
  | '~' => some .symmDiff
  | _ => none

/-- Reads on inside the bracket `bracket`, the innermost one of `progress`, whose other brackets are
`outer`, behind the character `c`. -/
def stepInBracket (progress : Progress) (bracket : OpenBracket) (outer : List OpenBracket)
    (c : Char) : Reader Progress := do
  match c with
  | '[' =>
    match ← readNamedClass? with
    | some tree => return { progress with brackets := bracket.add tree :: outer }
    | none =>
      let inner ← readBracketHead progress.spacedOut
      return { progress with brackets := inner :: bracket :: outer }
  | ']' =>
    let tree := ClassTree.bracketed bracket.negated bracket.contents
    match outer with
    | [] => return { progress with brackets := [] }.add (.cls tree)
    | parent :: others => return { progress with brackets := parent.add tree :: others }
  | c =>
    match (if (← peek?) = some c then setOp? c else none) with
    | some kind =>
      skip 1
      let bracket := { bracket with pending := some (kind, bracket.contents), items := [] }
      return { progress with brackets := bracket :: outer }
    | none =>
      let tree ← readClassMember progress.spacedOut c
      return { progress with brackets := bracket.add tree :: outer }

/-- Opens a group. -/
def Progress.openGroup (progress : Progress) (number : Option Nat) (settings : List FlagSetting) :
    Progress :=
  { progress with
    groups :=
      ⟨number, settings, progress.branches, progress.items, progress.spacedOut⟩ :: progress.groups
    branches := []
    items := []
    spacedOut := spacedOutAfter settings progress.spacedOut }

/-- Opens a group with the next number. -/
def Progress.openNumbered (progress : Progress) : Progress :=
  { progress with numbered := progress.numbered + 1 }.openGroup (some (progress.numbered + 1)) []

/-- Closes the innermost group, if one is open. -/
def Progress.closeGroup? (progress : Progress) : Option Progress :=
  match progress.groups with
  | [] => none
  | group :: groups =>
    some { progress with
      groups := groups
      branches := group.branches
      items := .group group.number group.settings progress.contents :: group.items
      spacedOut := group.spacedOut }

/-- Ends the current branch of the innermost group and starts the next one. -/
def Progress.nextBranch (progress : Progress) : Progress :=
  { progress with
    branches := .sequence progress.items.reverse :: progress.branches
    items := [] }

/-- Reads on outside brackets, behind the character `c`. -/
def stepOutside (progress : Progress) (c : Char) : Reader Progress := do
  match c with
  | '(' =>
    match ← readGroupHead progress.spacedOut with
    | .flags settings =>
      let spacedOut := spacedOutAfter settings progress.spacedOut
      return { progress with spacedOut := spacedOut }.add (.flags settings)
    | .numbered => return progress.openNumbered
    | .plain settings => return progress.openGroup none settings
    | .named name =>
      require (!progress.names.contains name)
      return { progress with names := name :: progress.names }.openNumbered
  | ')' => ofOption progress.closeGroup?
  | '|' => return progress.nextBranch
  | '[' => return { progress with brackets := [← readBracketHead progress.spacedOut] }
  | '?' => progress.repeatLast (give (0, some 1)) false
  | '*' => progress.repeatLast (give (0, none)) false
  | '+' => progress.repeatLast (give (1, none)) false
  | '\x7b' => progress.repeatLast (readCounts progress.spacedOut) progress.spacedOut
  | '\\' => return progress.add (← readEscape progress.spacedOut)
  | '.' => return progress.add .dot
  | '^' => return progress.add (.assertion .lineStart)
  | '$' => return progress.add (.assertion .lineEnd)
  | c => return progress.add (.literal ⟨c, false⟩)

/-- Reads on behind the character `c`. -/
def step (progress : Progress) (c : Char) : Reader Progress :=
  match progress.brackets with
  | [] => stepOutside progress c
  | bracket :: outer => stepInBracket progress bracket outer c

/-- Reads the rest of a pattern. -/
def readRest (progress : Progress) (text : List Char) : Option Pattern :=
  match _ : skipSpacing progress.spacedOut text with
  | [] => progress.finish?
  | c :: cs =>
    match _ : (step progress c).run cs with
    | none => none
    | some (further, rest) => readRest further rest
termination_by text.length
decreasing_by
  rename_i htext hstep
  have hspacing := length_skipSpacing_le progress.spacedOut text
  have hrest := (step progress c).shrinks hstep
  rw [htext] at hspacing
  simp only [List.length_cons] at hspacing
  omega

/-- The pattern that a text spells, if it spells one. `spacedOut` says whether blanks and comments
are passed over from the start. -/
def Pattern.ofText? (spacedOut : Bool) (text : List Char) : Option Pattern :=
  readRest (.initial spacedOut) text

end GrammarLang.Regex

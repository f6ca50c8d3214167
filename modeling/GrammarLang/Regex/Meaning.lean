import GrammarLang.Regex.Compose
import GrammarLang.Regex.PatternText
import GrammarLang.Regex.Search
import GrammarLang.Text.Span
import GrammarLang.Unicode.CaseFold
import GrammarLang.Unicode.PropertyName

/-! # What patterns mean

A **`Regex`** is a pattern together with the expression it stands for. **`Regex.compile?`** reads a
pattern under some **`Flags`** and resolves its flags and classes; it refuses a text that is no
pattern, and a pattern that asks for what is not there, such as a property with an unknown name.

Without the `unicode` flag a pattern works on bytes: classes are sets of bytes, and know plain text
only. A regex that must keep to whole characters then has no classes with other bytes. -/

namespace GrammarLang.Regex

open GrammarLang.Unicode (Alphabet CaseRule Ranges)

/-- The flags that change what a pattern means. -/
structure Flags where
  /-- Letters match in either case. -/
  anyCase : Bool := false
  /-- The line conditions hold at every line. -/
  multiLine : Bool := false
  /-- The dot matches line feeds too. -/
  dotAll : Bool := false
  /-- Greedy and reluctant repetitions change places. -/
  swapGreed : Bool := false
  /-- Characters count, not bytes, and classes know all scripts. -/
  unicode : Bool := true
  /-- Carriage returns end lines too. -/
  anyLineEnd : Bool := false
  deriving DecidableEq, Repr

namespace Flags

/-- Switches one flag on or off. -/
def set (flags : Flags) (setting : FlagSetting) : Flags :=
  match setting.flag with
  | .anyCase => { flags with anyCase := setting.on }
  | .multiLine => { flags with multiLine := setting.on }
  | .dotAll => { flags with dotAll := setting.on }
  | .swapGreed => { flags with swapGreed := setting.on }
  | .unicode => { flags with unicode := setting.on }
  | .anyLineEnd => { flags with anyLineEnd := setting.on }
  | .spacedOut => flags

/-- Switches several flags, one after another. -/
def setAll (flags : Flags) (settings : List FlagSetting) : Flags := settings.foldl set flags

/-- What classes are sets of. -/
def alphabet (flags : Flags) : Alphabet := if flags.unicode then .chars else .bytes

/-- Which characters count as the same letter under the flags. -/
def caseRule (flags : Flags) : CaseRule := if flags.unicode then .full else .plain

/-- Adds the other cases of a set's letters, where case does not matter. -/
def closeCase (flags : Flags) (codes : Ranges) : Ranges :=
  if flags.anyCase then flags.caseRule.close codes else codes

/-- The set itself, or all that is not in it. -/
def complementIf (flags : Flags) (negated : Bool) (codes : Ranges) : Ranges :=
  codes.complementIf flags.alphabet negated

end Flags

/-- The codes of plain text in a class with a letter of its own. -/
def LetterClass.plainCodes : LetterClass → Ranges
  | .digit => [(0x30, 0x39)]
  | .space => [(0x9, 0xD), (0x20, 0x20)]
  | .word => [(0x30, 0x39), (0x41, 0x5A), (0x5F, 0x5F), (0x61, 0x7A)]

/-- The codes in a class with a letter of its own. -/
def LetterClass.codes : LetterClass → Ranges
  | .digit => Unicode.CategoryTable.decimalNumber
  | .space => Unicode.blankRanges
  | .word => Unicode.Property.word.toRanges

/-- The codes in a class with a name between colons; all are plain text. -/
def NamedClass.codes : NamedClass → Ranges
  | .alnum => [(0x30, 0x39), (0x41, 0x5A), (0x61, 0x7A)]
  | .alpha => [(0x41, 0x5A), (0x61, 0x7A)]
  | .ascii => [(0, 0x7F)]
  | .blank => [(0x9, 0x9), (0x20, 0x20)]
  | .cntrl => [(0, 0x1F), (0x7F, 0x7F)]
  | .digit => [(0x30, 0x39)]
  | .graph => [(0x21, 0x7E)]
  | .lower => [(0x61, 0x7A)]
  | .print => [(0x20, 0x7E)]
  | .punct => [(0x21, 0x2F), (0x3A, 0x40), (0x5B, 0x60), (0x7B, 0x7E)]
  | .space => [(0x9, 0xD), (0x20, 0x20)]
  | .upper => [(0x41, 0x5A)]
  | .word => [(0x30, 0x39), (0x41, 0x5A), (0x5F, 0x5F), (0x61, 0x7A)]
  | .xdigit => [(0x30, 0x39), (0x41, 0x46), (0x61, 0x66)]

/-- The codes that a query asks for. -/
def PropertyQuery.codes? : PropertyQuery → Option Ranges
  | .name key => (Unicode.property? key).map (·.toRanges)
  | .value key wanted => (Unicode.propertyValue? key wanted).map (·.toRanges)

/-- How a pattern is to be understood: its flags, and whether matches must keep to whole
characters. -/
structure Reading where
  /-- The flags. -/
  flags : Flags
  /-- Whether matches must keep to whole characters. -/
  wholeChars : Bool
  deriving DecidableEq, Repr

namespace Reading

/-- A set of codes, unless it has bytes that are no characters and these must not be matched. -/
def admit? (reading : Reading) (codes : Ranges) : Option Ranges :=
  if !reading.flags.unicode && reading.wholeChars && !codes.isPlain then none else some codes

/-- Whether a character of a pattern stands for a byte beyond plain text. -/
def isByte (reading : Reading) (member : Literal) : Bool :=
  !reading.flags.unicode && member.asByte && 0x80 ≤ member.char.toNat

/-- The code of a member of a class. Where classes are sets of bytes, a character beyond plain text
is no member, unless it stands for a byte, and bytes beyond plain text may be matched. -/
def memberCode? (reading : Reading) (member : Literal) : Option Nat :=
  let code := member.char.toNat
  if reading.flags.unicode || code < 0x80 then some code
  else if reading.isByte member && !reading.wholeChars then some code
  else none

/-- The codes of a class. -/
def codes? (reading : Reading) : ClassTree → Option Ranges
  | .none => some []
  | .literal member => (reading.memberCode? member).map fun code => [(code, code)]
  | .range first last => do
    return [(← reading.memberCode? first, ← reading.memberCode? last)]
  | .letter kind negated =>
    if reading.flags.unicode then some (reading.flags.complementIf negated kind.codes)
    else reading.admit? (reading.flags.complementIf negated kind.plainCodes)
  | .named kind negated =>
    reading.admit? (reading.flags.complementIf negated (reading.flags.closeCase kind.codes))
  | .property query negated =>
    if reading.flags.unicode then
      query.codes?.map fun codes =>
        reading.flags.complementIf negated (reading.flags.closeCase codes)
    else none
  | .union left right => do
    return (← reading.codes? left).union (← reading.codes? right)
  | .op kind left right => do
    let left := reading.flags.closeCase (← reading.codes? left)
    let right := reading.flags.closeCase (← reading.codes? right)
    match kind with
    | .inter => return left.inter right
    | .diff => return left.diff reading.flags.alphabet right
    | .symmDiff => return left.symmDiff reading.flags.alphabet right
  | .bracketed negated inner => do
    let codes := reading.flags.closeCase (← reading.codes? inner)
    reading.admit? (reading.flags.complementIf negated codes)

/-- The expression that matches one element of a set: a character, or else a byte. -/
def element (reading : Reading) (codes : Ranges) : Expr :=
  match reading.flags.alphabet with
  | .chars => .ofChars codes
  | .bytes => .ofBytes codes

/-- The expression for a single character of a pattern. -/
def literal? (reading : Reading) (member : Literal) : Option Expr :=
  let code := member.char.toNat
  if reading.isByte member then
    if reading.wholeChars then none else some (.ofByte code)
  else if reading.flags.unicode || code < 0x80 then
    some (reading.element (reading.flags.closeCase [(code, code)]))
  else some (.text [.char member.char])

/-- The expression for the dot: it matches all but line ends, unless it matches all. -/
def dot? (reading : Reading) : Option Expr :=
  let lineEnds : Ranges :=
    if reading.flags.dotAll then []
    else if reading.flags.anyLineEnd then [(0xA, 0xA), (0xD, 0xD)]
    else [(0xA, 0xA)]
  (reading.admit? (lineEnds.complement reading.flags.alphabet)).map reading.element

/-- The condition that an assertion stands for. -/
def look (reading : Reading) (assertion : Assertion) : Look :=
  let flags := reading.flags
  match assertion with
  | .lineStart =>
    if !flags.multiLine then .textStart else if flags.anyLineEnd then .anyLineStart else .lineStart
  | .lineEnd =>
    if !flags.multiLine then .textEnd else if flags.anyLineEnd then .anyLineEnd else .lineEnd
  | .textStart => .textStart
  | .textEnd => .textEnd
  | .wordEdge => .word .either (!flags.unicode)
  | .noWordEdge => .word .neither (!flags.unicode)
  | .wordStart => .word .start (!flags.unicode)
  | .wordEnd => .word .stop (!flags.unicode)
  | .wordStartHalf => .word .startHalf (!flags.unicode)
  | .wordEndHalf => .word .stopHalf (!flags.unicode)

/-- The expressions for the branches of a pattern, and the flags behind it: flags that a pattern
sets hold for the rest of the group around it. -/
def branches? (reading : Reading) : Pattern → Option (List Expr × Flags)
  | .empty => some ([.empty], reading.flags)
  | .flags settings => some ([.empty], reading.flags.setAll settings)
  | .literal member => (reading.literal? member).map fun expr => ([expr], reading.flags)
  | .dot => reading.dot?.map fun expr => ([expr], reading.flags)
  | .assertion kind => some ([.look (reading.look kind)], reading.flags)
  | .cls tree => (reading.codes? tree).map fun codes => ([reading.element codes], reading.flags)
  | .repeated body least most reluctant => do
    let (branches, flags) ← reading.branches? body
    return ([.loop (.choice branches) least most (reluctant == flags.swapGreed)], flags)
  | .group number settings body => do
    let inner := { reading with flags := reading.flags.setAll settings }
    let (branches, _) ← inner.branches? body
    match number with
    | none => return ([.choice branches], reading.flags)
    | some number => return ([.group number (.choice branches)], reading.flags)
  | .seq first second => do
    let (first, flags) ← reading.branches? first
    let (second, flags) ← { reading with flags }.branches? second
    return ([(Expr.choice first).andThen (.choice second)], flags)
  | .alt first second => do
    let (first, flags) ← reading.branches? first
    let (second, flags) ← { reading with flags }.branches? second
    return (first ++ second, flags)

/-- The expression for a pattern. -/
def expr? (reading : Reading) (pattern : Pattern) : Option Expr :=
  (reading.branches? pattern).map fun (branches, _) => .choice branches

end Reading

end GrammarLang.Regex

namespace GrammarLang

/-- A regular expression that texts can be searched with. -/
structure Regex where
  /-- What is matched. -/
  expr : Regex.Expr
  /-- Whether matches keep to whole characters. -/
  wholeChars : Bool
  deriving Repr

namespace Regex

/-- The regular expression that a text spells under some flags, if it spells one. `spacedOut` says
whether blanks and comments in the text are passed over from the start. -/
def compile? (reading : Reading) (spacedOut : Bool) (text : List Char) : Option Regex := do
  let pattern ← Pattern.ofText? spacedOut text
  return ⟨← reading.expr? pattern, reading.wholeChars⟩

/-- The leftmost match from the start of a text on: where it starts and where it ends. -/
def find? {text : List Char} (regex : Regex) (start : Spot text) :
    Option (Spot text × Spot text) :=
  regex.expr.find? (!regex.wholeChars) start

/-- The bytes of the leftmost match in a text. -/
def findSpan? (regex : Regex) (text : List Char) : Option Text.Span :=
  (regex.find? (.start text)).map fun (start, stop) => ⟨start.offset, stop.offset⟩

/-- Writes a text so that, read as a pattern, it matches just itself. -/
def escape (text : List Char) : List Char :=
  text.flatMap fun c => if isMeta c then ['\\', c] else [c]

@[simp] theorem escape_nil : escape [] = [] := rfl

theorem escape_cons (c : Char) (cs : List Char) :
    escape (c :: cs) = (if isMeta c then ['\\', c] else [c]) ++ escape cs := by
  simp [escape]

end Regex

end GrammarLang

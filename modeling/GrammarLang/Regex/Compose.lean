import GrammarLang.Regex.Expr

/-! # Putting expressions together

Expressions are put together so that some that are written differently come out the same:

* **`Expr.ofChars`**, **`Expr.ofBytes`** — a set of one member is a text.
* **`Expr.andThen`** — neighbouring texts become one text.
* **`Expr.loop`** — what takes no text is not repeated.
* **`Expr.choice`** — a choice between single letters, or between sets, is a set. If all branches
  begin with the same parts, then these parts come once, and the choice behind them.

The last point decides which matches are preferred: how much a loop takes in a common beginning is
settled before a branch is chosen, so that `a*abc|a*b` matches as `a*(?:abc|b)` does, and finds
`aab` in `aabc`. -/

namespace GrammarLang.Regex

open GrammarLang.Unicode (Ranges)

namespace Expr

/-! ## Sets -/

/-- The expression that matches nothing at all. -/
def never : Expr := .byte []

/-- The expression that matches one character of a set. -/
def ofChars : Ranges → Expr
  | [] => never
  | [(first, last)] =>
    if first = last then .text [.char (Char.ofNat first)] else .char [(first, last)]
  | set => .char set

/-- The text of one byte. -/
def ofByte (code : Nat) : Expr :=
  .text [if code < 0x80 then .char (Char.ofNat code) else .byte (UInt8.ofNat code)]

/-- The expression that matches one byte of a set. -/
def ofBytes : Ranges → Expr
  | [] => never
  | [(first, last)] => if first = last then ofByte first else .byte [(first, last)]
  | set => .byte set

/-! ## Sequences -/

/-- Matches some letters and then an expression. -/
def afterLetters (letters : List Letter) : Expr → Expr
  | .empty => .text letters
  | .text more => .text (Letter.append letters more)
  | .seq (.text more) rest => .seq (.text (Letter.append letters more)) rest
  | expr => .seq (.text letters) expr

/-- Matches the first expression and then the second. -/
def andThen : Expr → Expr → Expr
  | .empty, second => second
  | .text letters, second => afterLetters letters second
  | .seq first rest, second => first.andThen (rest.andThen second)
  | first, .empty => first
  | first, second => .seq first second

/-- Matches some expressions one after another. -/
def sequence (exprs : List Expr) : Expr := exprs.foldr andThen .empty

/-- The parts of a sequence, none of which is a sequence itself. -/
def parts : Expr → List Expr
  | .empty => []
  | .seq first second => first.parts ++ second.parts
  | expr => [expr]

/-! ## Repetition -/

/-- Matches an expression over and over. What takes no text need not be matched twice at one
spot. -/
def loop (body : Expr) (least : Nat) (most : Option Nat) (greedy : Bool) : Expr :=
  let (least, most) :=
    if body.takesNothing then (min least 1, some (min (most.getD 1) 1)) else (least, most)
  match least, most with
  | 0, some 0 => .empty
  | 1, some 1 => body
  | least, most => .repeated body least most greedy

/-! ## Choices -/

/-- The branches of a choice, none of which is a choice itself. -/
def branches : Expr → List Expr
  | .alt first second => first.branches ++ second.branches
  | expr => [expr]

/-- Matches the first of some expressions, or else the next ones. -/
def firstOf : List Expr → Expr
  | [] => never
  | [expr] => expr
  | expr :: exprs => .alt expr (firstOf exprs)

/-- The code of the character that the expression matches, if it is a text of one character. -/
def singleChar? : Expr → Option Nat
  | .text [.char c] => some c.toNat
  | _ => none

/-- The byte that the expression matches, if it is a text of one byte. -/
def singleByte? : Expr → Option Nat
  | .text [.char c] => if c.toNat < 0x80 then some c.toNat else none
  | .text [.byte octet] => some octet.toNat
  | _ => none

/-- The set of characters that the expression matches one of, if it is such a set. -/
def charSet? : Expr → Option Ranges
  | .char set => some set
  | .byte set => if set.isPlain then some set else none
  | _ => none

/-- The set of bytes that the expression matches one of, if it is such a set. -/
def byteSet? : Expr → Option Ranges
  | .byte set => some set
  | .char set => if set.isPlain then some set else none
  | _ => none

/-- The one set that stands for a choice between single letters, or between sets. -/
def oneSet? (exprs : List Expr) : Option Expr :=
  ((exprs.mapM singleChar?).map fun codes => ofChars (.ofCodes codes)).or <|
  ((exprs.mapM singleByte?).map fun codes => ofBytes (.ofCodes codes)).or <|
  ((exprs.mapM charSet?).map fun sets => ofChars (.unions sets)).or <|
  (exprs.mapM byteSet?).map fun sets => ofBytes (.unions sets)

/-- The parts that two sequences begin with alike. -/
def sharedParts : List Expr → List Expr → List Expr
  | first :: firsts, second :: seconds =>
    if first = second then first :: sharedParts firsts seconds else []
  | _, _ => []

/-- The parts of an expression, if it is a sequence. -/
def partsOfSeq? (expr : Expr) : Option (List Expr) :=
  match expr with
  | .seq _ _ => some expr.parts
  | _ => none

/-- The parts that some sequences all begin with, and what is left of each sequence behind them.
There are none where one of the expressions is no sequence. -/
def commonStart? (exprs : List Expr) : Option (List Expr × List Expr) :=
  match exprs.mapM partsOfSeq? with
  | none => none
  | some [] => none
  | some (first :: others) =>
    match others.foldl sharedParts first with
    | [] => none
    | start => some (start, (first :: others).map fun parts => sequence (parts.drop start.length))

/-- Matches the first of some expressions, or else the next ones; choices among them are part of
this choice. -/
def flatChoice (exprs : List Expr) : Expr :=
  let exprs := exprs.flatMap branches
  (oneSet? exprs).getD (firstOf exprs)

/-- Matches the first of some expressions, or else the next ones, in the simplest form. -/
def choice (exprs : List Expr) : Expr :=
  match exprs.flatMap branches with
  | [expr] => expr
  | exprs =>
    match oneSet? exprs with
    | some set => set
    | none =>
      match commonStart? exprs with
      -- What is left of the branches has no common start any more.
      | some (start, rests) => sequence (start ++ [flatChoice rests])
      | none => firstOf exprs

@[simp] theorem empty_andThen (expr : Expr) : Expr.empty.andThen expr = expr := by
  simp [andThen]

@[simp] theorem sequence_nil : sequence [] = .empty := rfl

@[simp] theorem sequence_cons (expr : Expr) (exprs : List Expr) :
    sequence (expr :: exprs) = expr.andThen (sequence exprs) := rfl

/-- One branch is no choice. -/
@[simp] theorem choice_singleton {expr : Expr} (h : expr.branches = [expr]) :
    choice [expr] = expr := by
  simp [choice, h]

end Expr

end GrammarLang.Regex

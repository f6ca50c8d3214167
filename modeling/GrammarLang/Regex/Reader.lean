import GrammarLang.Unicode.Blank

/-! # Readers

A **`Reader`** reads a value from the front of a text and leaves the rest, or refuses the text. What
it leaves is never longer than what it was given (`Reader.shrinks`); a loop of readers that each
take a character therefore comes to an end. -/

namespace GrammarLang.Regex

/-- Reads a value from the front of a text. -/
structure Reader (α : Type) where
  /-- The value read and the text behind it; none when the text is refused. -/
  run : List Char → Option (α × List Char)
  /-- Reading does not make text. -/
  shrinks : ∀ {text : List Char} {value : α} {rest : List Char},
    run text = some (value, rest) → rest.length ≤ text.length

namespace Reader

/-- Reads nothing and gives a value. -/
def give {α : Type} (value : α) : Reader α where
  run text := some (value, text)
  shrinks h := by simp at h; simp [h.2]

/-- Reads a value and then what depends on it. -/
def andThen {α β : Type} (first : Reader α) (next : α → Reader β) : Reader β where
  run text :=
    match first.run text with
    | none => none
    | some (value, rest) => (next value).run rest
  shrinks {text value rest} h := by
    split at h
    · simp at h
    · rename_i middle between hfirst
      exact Nat.le_trans ((next middle).shrinks h) (first.shrinks hfirst)

instance : Monad Reader where
  pure := give
  bind := andThen

/-- Refuses every text. -/
def refuse {α : Type} : Reader α where
  run _ := none
  shrinks h := by simp at h

/-- Gives a value, or refuses the text where there is none. -/
def ofOption {α : Type} : Option α → Reader α
  | some value => give value
  | none => refuse

/-- Refuses the text unless a condition holds. -/
def require (condition : Bool) : Reader Unit := if condition then give () else refuse

/-- The text still to be read. -/
def ahead : Reader (List Char) where
  run text := some (text, text)
  shrinks h := by simp at h; simp [h.2]

/-- The next character, which stays unread. -/
def peek? : Reader (Option Char) where
  run text := some (text.head?, text)
  shrinks h := by simp at h; simp [h.2]

/-- Reads one character; the end of the text is refused. -/
def next : Reader Char where
  run text :=
    match text with
    | [] => none
    | c :: cs => some (c, cs)
  shrinks {text value rest} h := by
    cases text <;> simp at h
    simp [h.2]

/-- Reads a given text, or else nothing; says which. -/
def accept (expected : List Char) : Reader Bool where
  run text :=
    if expected.isPrefixOf text then some (true, text.drop expected.length) else some (false, text)
  shrinks {text value rest} h := by
    split at h <;> simp at h
    · simp [← h.2]
    · simp [h.2]

/-- Passes over a number of characters, or over the whole text if it has fewer. -/
def skip (count : Nat) : Reader Unit where
  run text := some ((), text.drop count)
  shrinks {text value rest} h := by
    simp only [Option.some.injEq, Prod.mk.injEq] at h
    simp [← h.2]

/-- Reads the longest run of characters with a property. -/
def takeWhile (property : Char → Bool) : Reader (List Char) where
  run text := some (text.takeWhile property, text.dropWhile property)
  shrinks {text value rest} h := by
    simp at h
    rw [← h.2]
    exact (List.dropWhile_suffix property).length_le

end Reader

/-- Passes over blanks, and over comments from a number sign to the end of the line. `inComment`
says that the text starts inside a comment. -/
def skipRemarks : (inComment : Bool) → List Char → List Char
  | _, [] => []
  | true, c :: cs => skipRemarks (c ≠ '\n') cs
  | false, c :: cs =>
    if Unicode.isBlank c then skipRemarks false cs
    else if c = '#' then skipRemarks true cs
    else c :: cs

theorem length_skipRemarks_le (inComment : Bool) (text : List Char) :
    (skipRemarks inComment text).length ≤ text.length := by
  induction text generalizing inComment with
  | nil => cases inComment <;> simp [skipRemarks]
  | cons c cs ih =>
    cases inComment
    · simp only [skipRemarks, List.length_cons]
      split
      · exact Nat.le_succ_of_le (ih false)
      · split
        · exact Nat.le_succ_of_le (ih true)
        · simp
    · simp only [skipRemarks, List.length_cons]
      exact Nat.le_succ_of_le (ih _)

/-- Passes over blanks and comments, where the pattern is spaced out. -/
def skipSpacing (spacedOut : Bool) (text : List Char) : List Char :=
  if spacedOut then skipRemarks false text else text

@[simp] theorem skipSpacing_false (text : List Char) : skipSpacing false text = text := rfl

theorem length_skipSpacing_le (spacedOut : Bool) (text : List Char) :
    (skipSpacing spacedOut text).length ≤ text.length := by
  cases spacedOut
  · simp
  · exact length_skipRemarks_le false text

/-- The longest run of characters with a property, and the text behind it; where the pattern is
spaced out, blanks and comments behind each of them are passed over. -/
def splitSpaced (spacedOut : Bool) (property : Char → Bool) (text : List Char) :
    List Char × List Char :=
  match text with
  | [] => ([], [])
  | c :: cs =>
    if property c then
      let (taken, rest) := splitSpaced spacedOut property (skipSpacing spacedOut cs)
      (c :: taken, rest)
    else ([], c :: cs)
termination_by text.length
decreasing_by
  have := length_skipSpacing_le spacedOut cs
  simp only [List.length_cons]
  omega

theorem length_splitSpaced_le (spacedOut : Bool) (property : Char → Bool) (text : List Char) :
    (splitSpaced spacedOut property text).2.length ≤ text.length := by
  fun_induction splitSpaced spacedOut property text with
  | case1 => simp
  | case2 c cs _ taken rest hrest ih =>
    have := length_skipSpacing_le spacedOut cs
    rw [hrest] at ih
    simp only [List.length_cons]
    exact Nat.le_succ_of_le (Nat.le_trans ih this)
  | case3 => simp

namespace Reader

/-- Passes over blanks and comments, where the pattern is spaced out. -/
def spacing (spacedOut : Bool) : Reader Unit where
  run text := some ((), skipSpacing spacedOut text)
  shrinks {text value rest} h := by
    simp only [Option.some.injEq, Prod.mk.injEq] at h
    rw [← h.2]
    exact length_skipSpacing_le spacedOut text

/-- Reads the longest run of characters with a property; where the pattern is spaced out, blanks and
comments behind each of them are passed over. -/
def takeSpaced (spacedOut : Bool) (property : Char → Bool) : Reader (List Char) where
  run text := some (splitSpaced spacedOut property text)
  shrinks {text value rest} h := by
    simp only [Option.some.injEq] at h
    have := length_splitSpaced_le spacedOut property text
    rw [h] at this
    exact this

end Reader

end GrammarLang.Regex

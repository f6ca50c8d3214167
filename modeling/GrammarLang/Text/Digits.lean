/-! # Digits and codes

Numbers that are written with digits, in any base up to sixteen, and characters that are given by
their codes. -/

namespace GrammarLang.Text

/-- The value of a hexadecimal digit. -/
def hexValue? (c : Char) : Option Nat :=
  if '0' ≤ c ∧ c ≤ '9' then some (c.toNat - '0'.toNat)
  else if 'a' ≤ c ∧ c ≤ 'f' then some (c.toNat - 'a'.toNat + 10)
  else if 'A' ≤ c ∧ c ≤ 'F' then some (c.toNat - 'A'.toNat + 10)
  else none

/-- Whether a character is a hexadecimal digit. -/
def isHexDigit (c : Char) : Bool := (hexValue? c).isSome

/-- The number that some digits of a base stand for; characters that are no digits count as zero. -/
def numberOf (base : Nat) (digits : List Char) : Nat :=
  digits.foldl (fun value digit => value * base + (hexValue? digit).getD 0) 0

/-- The character with a given code, if there is one. -/
def charOfCode? (code : Nat) : Option Char :=
  if h : code.isValidChar then some (Char.ofNatAux code h) else none

/-- The digits of a number in base sixteen, the letters small. -/
def hexDigits (n : Nat) : List Char := Nat.toDigits 16 n

/-- The number that some decimal digits stand for, if it fits in 64 bits. A plus sign may come
before the digits, of which there must be at least one. -/
def parseUInt64? (text : List Char) : Option UInt64 :=
  let digits := match text with
    | '+' :: rest => rest
    | _ => text
  if digits.isEmpty || !digits.all Char.isDigit then none
  else
    let value := numberOf 10 digits
    if h : value < UInt64.size then some (UInt64.ofNatLT value h) else none

end GrammarLang.Text

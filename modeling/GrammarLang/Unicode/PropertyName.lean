import GrammarLang.Unicode.AgeTable
import GrammarLang.Unicode.Break

/-! # Properties of characters by name

A property is asked for by a name alone, such as `Lu`, `Greek` or `Alphabetic`, or by a name and a
value, such as `Script=Greek` or `Age=3.0`. **`property?`** and **`propertyValue?`** give the set of
codes. Names are read loosely: case, blanks, underscores, hyphens and a leading `is` do not matter,
which **`reducedName`** makes precise. -/

namespace GrammarLang.Unicode

/-- The codes of a script and those that are used with it. Characters that are used with some
scripts do not count as common to all. -/
def Script.extension (script : Script) : CodeSet :=
  if script.names = ScriptTable.common.names ∨ script.names = ScriptTable.inherited.names then
    .diff (.ranges script.ranges) (.unions (scripts.map fun script => .ranges script.shared))
  else .union (.ranges script.ranges) (.ranges script.shared)

/-- The script with a reduced name. -/
def findScript? (name : String) : Option Script := scripts.find? (·.names.contains name)

/-- The set of a script, by its reduced name. -/
def script? (name : String) : Option CodeSet :=
  (findScript? name).map fun script => .ranges script.ranges

/-- The codes that were assigned at an age or before, by the reduced name of the age. -/
def age? (name : String) : Option CodeSet :=
  (ages.findIdx? (·.names.contains name)).map fun index =>
    .unions ((ages.take (index + 1)).map fun age => .ranges age.ranges)

/-- Keeps what matters of a name: blanks, underscores and hyphens go, as does anything beyond plain
text, and letters become lowercase. A leading `is` goes too, except that `isc` keeps it, which
would otherwise read as the category `c`. -/
def reducedName (name : String) : String :=
  let startsWithIs := (name.toList.take 2).map Char.toLower = ['i', 's']
  let body := if startsWithIs then name.toList.drop 2 else name.toList
  let kept := body.filter fun c => c ≠ ' ' && c ≠ '_' && c ≠ '-' && c.toNat < 0x80
  let reduced := kept.map Char.toLower
  if startsWithIs && reduced = ['c'] then "isc" else String.ofList reduced

/-- The set of codes that a property name stands for: a property that says yes or no, a general
category or a script, looked for in this order. -/
def property? (name : String) : Option CodeSet :=
  let reduced := reducedName name
  (Property.yesNo? reduced).or ((category? reduced).or (script? reduced))

/-- The set of codes for which a property has a value: a general category, a script, one of the
scripts that a character is used with, an age, or a part in breaking texts. -/
def propertyValue? (name value : String) : Option CodeSet :=
  let reduced := reducedName value
  match reducedName name with
  | "gc" | "generalcategory" => category? reduced
  | "sc" | "script" => script? reduced
  | "scx" | "scriptextensions" => (findScript? reduced).map Script.extension
  | "age" => age? reduced
  | "gcb" | "graphemeclusterbreak" => clusterPart? reduced
  | "wb" | "wordbreak" => wordPart? reduced
  | "sb" | "sentencebreak" => sentencePart? reduced
  | _ => none

end GrammarLang.Unicode

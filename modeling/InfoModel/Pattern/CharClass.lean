import InfoModel.Pattern.Node
import InfoModel.Text.Trim
import InfoModel.Unicode.Age
import InfoModel.Unicode.Break
import InfoModel.Unicode.Fold
import InfoModel.Unicode.ScriptExtension

/-!
# Named classes of characters

A pattern names classes of characters by a letter, by a word between colons, or by a property of the
character set: a general category, a script or a binary property by its name alone, and a few more
by name and value. Names are compared without regard to case, blanks, hyphens, underscores and an
`is` in front.
-/

namespace InfoModel.Pattern
open InfoModel.Text InfoModel.Unicode

def digitChars : CodeSet := category "nd"

def blankChars : CodeSet := property "whitespace"

def asciiDigitChars : CodeSet := .range '0' '9'

def asciiBlankChars : CodeSet := ⟨[(9, 13), (32, 32)]⟩

/-- The class of a small letter: digits, white space or word characters. -/
def letterClass? (unicode : Bool) : Char → Option CodeSet
  | 'd' => some (if unicode then digitChars else asciiDigitChars)
  | 's' => some (if unicode then blankChars else asciiBlankChars)
  | 'w' => some (if unicode then wordChars else asciiWordChars)
  | _ => none

/-- The ASCII characters whose code points are in the intervals. -/
def asciiClass? : String → Option CodeSet
  | "alnum" => some ⟨[(48, 57), (65, 90), (97, 122)]⟩
  | "alpha" => some ⟨[(65, 90), (97, 122)]⟩
  | "ascii" => some ⟨[(0, 127)]⟩
  | "blank" => some ⟨[(9, 9), (32, 32)]⟩
  | "cntrl" => some ⟨[(0, 31), (127, 127)]⟩
  | "digit" => some ⟨[(48, 57)]⟩
  | "graph" => some ⟨[(33, 126)]⟩
  | "lower" => some ⟨[(97, 122)]⟩
  | "print" => some ⟨[(32, 126)]⟩
  | "punct" => some ⟨[(33, 47), (58, 64), (91, 96), (123, 126)]⟩
  | "space" => some ⟨[(9, 13), (32, 32)]⟩
  | "upper" => some ⟨[(65, 90)]⟩
  | "word" => some ⟨[(48, 57), (65, 90), (95, 95), (97, 122)]⟩
  | "xdigit" => some ⟨[(48, 57), (65, 70), (97, 102)]⟩
  | _ => none

/-- The name without case, blanks, hyphens, underscores and other than ASCII characters. -/
def plainName (cs : List Char) : List Char :=
  (cs.filter fun c => c.toNat < 128 && !(c = ' ' || c = '_' || c = '-')).map asciiLower

/-- The name by which a property is looked up: an `is` in front is dropped, except from `isc`. -/
def propertyName (cs : List Char) : String :=
  match cs with
  | i :: s :: rest =>
    if asciiLower i = 'i' ∧ asciiLower s = 's' then
      if plainName rest = ['c'] then "isc" else String.ofList (plainName rest)
    else String.ofList (plainName cs)
  | _ => String.ofList (plainName cs)

/-- The general categories that stand for several others, by all their names. -/
def categoryGroups : List (List String × List String) := [
  (["l", "letter"], ["lu", "ll", "lt", "lm", "lo"]),
  (["lc", "casedletter"], ["lu", "ll", "lt"]),
  (["m", "mark", "combiningmark"], ["mn", "mc", "me"]),
  (["n", "number"], ["nd", "nl", "no"]),
  (["p", "punctuation", "punct"], ["pc", "pd", "ps", "pe", "pi", "pf", "po"]),
  (["s", "symbol"], ["sm", "sc", "sk", "so"]),
  (["z", "separator"], ["zs", "zl", "zp"])]

def categoryClass? (name : String) : Option CodeSet :=
  match categoryGroups.find? fun g => g.1.contains name with
  | some (_, members) => some (categoriesOf members)
  | none =>
    if name = "any" then some CodeSet.full
    else if name = "assigned" then some assigned
    else if name = "ascii" then some ⟨[(0, 127)]⟩
    else if name = "cn" ∨ name = "unassigned" then some assigned.complement
    else if name = "c" ∨ name = "other" then
      some (assigned.complement.union (categoriesOf ["cc", "cf", "cs", "co"]))
    else NamedSet.lookup categories name

def scriptClass? (name : String) : Option CodeSet := NamedSet.lookup scripts name

/-- The names that mean a general category although they are also names of properties. -/
def categoryFirst : List String := ["cf", "sc", "lc"]

def namedClass? (name : String) : Option CodeSet :=
  let binary := if categoryFirst.contains name then none else NamedSet.lookup properties name
  binary <|> categoryClass? name <|> scriptClass? name

/-- The properties that have values, by all their names, with the characters for each value. -/
def valuedProperties : List (List String × (String → Option CodeSet)) := [
  (["gc", "generalcategory"], categoryClass?),
  (["sc", "script"], scriptClass?),
  (["scx", "scriptextensions"], usedInScript?),
  (["age"], assignedUpTo?),
  (["gcb", "graphemeclusterbreak"], NamedSet.lookup graphemeBreaks),
  (["wb", "wordbreak"], NamedSet.lookup wordBreaks),
  (["sb", "sentencebreak"], NamedSet.lookup sentenceBreaks)]

def valueClass? (property value : String) : Option CodeSet :=
  (valuedProperties.find? fun p => p.1.contains property).bind fun p => p.2 value

def cutUnequal : List Char → Option (List Char × List Char)
  | [] => none
  | '!' :: '=' :: rest => some ([], rest)
  | c :: rest => (cutUnequal rest).map fun (before, after) => (c :: before, after)

/-- The characters that the text between the braces names, and whether it names all others instead.
-/
def propertyClass? (cs : List Char) : Option (CodeSet × Bool) :=
  let byValue (p : List Char × List Char) := valueClass? (propertyName p.1) (propertyName p.2)
  match cutUnequal cs with
  | some p => (byValue p).map fun s => (s, true)
  | none =>
    match cutFirst ':' cs <|> cutFirst '=' cs with
    | some p => (byValue p).map fun s => (s, false)
    | none => (namedClass? (propertyName cs)).map fun s => (s, false)

end InfoModel.Pattern

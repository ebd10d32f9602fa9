import InfoModel.Tree.Basic

/-!
# Reading documents

A document is read from its JSON text. An integer that fits a signed or an unsigned 64-bit word is
kept exactly; every other number becomes the nearest binary number. Reading is by recursive descent;
each step of the descent takes at least one character, so the length of the text bounds its depth.

No other bound is set on nesting, and a record may repeat a key. A front end that refuses documents
nested more than 128 deep, or records that repeat a key, reads fewer documents; those that it reads,
it reads alike.
-/

namespace InfoModel.Tree
open InfoModel.Text InfoModel.Unicode InfoModel.Number

def isGap (c : Char) : Bool := c = ' ' || c = '\t' || c = '\n' || c = '\x0d'

def skipGaps (cs : List Char) : List Char := cs.dropWhile isGap

def readWord (word : String) (meaning : Tree) (cs : List Char) : Option (Tree × List Char) :=
  match cs.take word.length == word.toList with
  | true => some (meaning, cs.drop word.length)
  | false => none

/-- The integer `n` as a tree: exact when it fits a 64-bit word, else the nearest binary number. A
zero with a minus is a binary number too, for only these keep its sign. -/
def ofInteger (negative : Bool) (n : Nat) : Tree :=
  if negative then
    if 0 < n ∧ n ≤ 9223372036854775808 then .integer (-(n : Int))
    else .real (Binary64.nearest true n 0)
  else if n < UInt64.size then .integer n else .real (Binary64.nearest false n 0)

/-- The number in parts as a tree: without places and exponent it is an integer. -/
def ofNumber (negative : Bool) (whole : List Char) (places : Option (List Char))
    (exponent : Option Int) : Tree :=
  match places, exponent with
  | none, none => ofInteger negative (digitsValue whole)
  | places, exponent =>
    let places := places.getD []
    .real (Binary64.nearest negative (digitsValue (whole ++ places))
      (exponent.getD 0 - (places.length : Int)))

def cutMinus : List Char → Bool × List Char
  | '-' :: cs => (true, cs)
  | cs => (false, cs)

def cutSign : List Char → Bool × List Char
  | '+' :: cs => (false, cs)
  | cs => cutMinus cs

def readDigits (cs : List Char) : Option (List Char × List Char) :=
  let ds := cs.takeWhile isAsciiDigit
  if ds.isEmpty then none else some (ds, cs.dropWhile isAsciiDigit)

/-- Reads the digits before a point, which begin with a zero only where this is all. -/
def readWhole (cs : List Char) : Option (List Char × List Char) := do
  let (ds, rest) ← readDigits cs
  if ds.head? == some '0' && 1 < ds.length then none else some (ds, rest)

def readPlaces : List Char → Option (Option (List Char) × List Char)
  | '.' :: cs => (readDigits cs).map fun (ds, rest) => (some ds, rest)
  | cs => some (none, cs)

def readExponent : List Char → Option (Option Int × List Char)
  | [] => some (none, [])
  | c :: cs =>
    if c = 'e' || c = 'E' then
      let (negative, cs) := cutSign cs
      (readDigits cs).map fun (ds, rest) =>
        (some (if negative then -(digitsValue ds : Int) else digitsValue ds), rest)
    else some (none, c :: cs)

def readNumber (cs : List Char) : Option (Tree × List Char) := do
  let (negative, cs) := cutMinus cs
  let (whole, cs) ← readWhole cs
  let (places, cs) ← readPlaces cs
  let (exponent, cs) ← readExponent cs
  return (ofNumber negative whole places exponent, cs)

def readUnit (cs : List Char) : Option (Nat × List Char) :=
  let ds := cs.take 4
  if ds.length = 4 && ds.all isHexDigit then some (hexValue ds, cs.drop 4) else none

/-- Reads the low surrogate that stands behind a high one. -/
def readLow : List Char → Option (Nat × List Char)
  | '\\' :: 'u' :: cs => (readUnit cs).filter fun (low, _) => 0xDC00 ≤ low && low ≤ 0xDFFF
  | _ => none

/-- Reads a character by its number: one unit, or two surrogates that make it up. -/
def readCode (cs : List Char) : Option (Char × List Char) := do
  let (high, cs) ← readUnit cs
  if 0xD800 ≤ high && high ≤ 0xDBFF then
    let (low, cs) ← readLow cs
    return (Char.ofNat (0x10000 + (high - 0xD800) * 1024 + (low - 0xDC00)), cs)
  else if 0xDC00 ≤ high && high ≤ 0xDFFF then none
  else return (Char.ofNat high, cs)

def readEscape : List Char → Option (Char × List Char)
  | '"' :: cs => some ('"', cs)
  | '\\' :: cs => some ('\\', cs)
  | '/' :: cs => some ('/', cs)
  | 'b' :: cs => some ('\x08', cs)
  | 'f' :: cs => some ('\x0c', cs)
  | 'n' :: cs => some ('\n', cs)
  | 'r' :: cs => some ('\x0d', cs)
  | 't' :: cs => some ('\t', cs)
  | 'u' :: cs => readCode cs
  | _ => none

/-- Reads a text from after its opening quote; `done` holds its characters so far, last first. -/
def readText : Nat → List Char → List Char → Option (String × List Char)
  | 0, _, _ => none
  | _ + 1, _, [] => none
  | fuel + 1, done, c :: cs =>
    if c = '"' then some (String.ofList done.reverse, cs)
    else if c = '\\' then
      match readEscape cs with
      | some (d, rest) => readText fuel (d :: done) rest
      | none => none
    else if c.toNat < 32 then none
    else readText fuel (c :: done) cs

def readKey (fuel : Nat) (cs : List Char) : Option (String × List Char) :=
  match skipGaps cs with
  | '"' :: rest =>
    match readText fuel [] rest with
    | none => none
    | some (key, rest) =>
      match skipGaps rest with
      | ':' :: rest => some (key, rest)
      | _ => none
  | _ => none

mutual

def readTree : Nat → List Char → Option (Tree × List Char)
  | 0, _ => none
  | fuel + 1, cs =>
    match skipGaps cs with
    | [] => none
    | c :: rest =>
      match c with
      | '"' => (readText (fuel + 1) [] rest).map fun (s, rest) => (.text s, rest)
      | '[' =>
        match skipGaps rest with
        | ']' :: rest => some (.list [], rest)
        | rest => readItems fuel [] rest
      | '\x7b' =>
        match skipGaps rest with
        | '\x7d' :: rest => some (.record [], rest)
        | rest => readEntries fuel [] rest
      | 'n' => readWord "null" .null (c :: rest)
      | 't' => readWord "true" (.bool true) (c :: rest)
      | 'f' => readWord "false" (.bool false) (c :: rest)
      | _ => readNumber (c :: rest)

def readItems : Nat → List Tree → List Char → Option (Tree × List Char)
  | 0, _, _ => none
  | fuel + 1, done, cs =>
    match readTree fuel cs with
    | none => none
    | some (item, rest) =>
      match skipGaps rest with
      | ',' :: rest => readItems fuel (item :: done) rest
      | ']' :: rest => some (.list (item :: done).reverse, rest)
      | _ => none

def readEntries : Nat → List (String × Tree) → List Char → Option (Tree × List Char)
  | 0, _, _ => none
  | fuel + 1, done, cs =>
    match readKey (fuel + 1) cs with
    | none => none
    | some (key, rest) =>
      match readTree fuel rest with
      | none => none
      | some (value, rest) =>
        match skipGaps rest with
        | ',' :: rest => readEntries fuel ((key, value) :: done) rest
        | '\x7d' :: rest => some (.record ((key, value) :: done).reverse, rest)
        | _ => none

end

def ofText? (text : String) : Option Tree :=
  let cs := text.toList
  match readTree (cs.length + 1) cs with
  | some (t, rest) => if (skipGaps rest).isEmpty then some t else none
  | none => none

end InfoModel.Tree

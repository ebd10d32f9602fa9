import InfoModel.Text.Digits
import InfoModel.Text.Trim

/-!
# Calendar dates

Dates belong to the Gregorian calendar, extended to years before its introduction; there is a year
zero. The written form `year-month-day` allows blanks before each number, one or two digits for
month and day, and a signed year of any length; a year without a sign has at most four digits.
-/

namespace InfoModel
open InfoModel.Text InfoModel.Unicode

structure Date where
  year : Int
  month : Nat
  day : Nat
deriving Repr, DecidableEq

namespace Date

def isLeapYear (year : Int) : Bool :=
  year % 4 == 0 && (year % 100 != 0 || year % 400 == 0)

/-- The number of days of a month, which is zero for a number that is no month. -/
def daysInMonth (year : Int) (month : Nat) : Nat :=
  match month with
  | 1 | 3 | 5 | 7 | 8 | 10 | 12 => 31
  | 4 | 6 | 9 | 11 => 30
  | 2 => if isLeapYear year then 29 else 28
  | _ => 0

def minYear : Int := -262143

def maxYear : Int := 262142

/-- The date with the given parts, if there is one. -/
def make (year : Int) (month day : Nat) : Option Date :=
  if minYear ≤ year ∧ year ≤ maxYear ∧ 1 ≤ day ∧ day ≤ daysInMonth year month then
    some ⟨year, month, day⟩
  else none

theorem day_le_of_make {year : Int} {month day : Nat} {d : Date}
    (h : make year month day = some d) :
    1 ≤ d.day ∧ d.day ≤ daysInMonth d.year d.month := by
  unfold make at h
  split at h
  · next hd =>
    cases h
    exact ⟨hd.2.2.1, hd.2.2.2⟩
  · simp at h

end Date

def readNumber (limit : Nat) (cs : List Char) : Option (Nat × List Char) :=
  let ds := (cs.take limit).takeWhile isAsciiDigit
  if ds.isEmpty then none else some (digitsValue ds, cs.drop ds.length)

def readExactly (count : Nat) (cs : List Char) : Option (Nat × List Char) :=
  let ds := cs.take count
  if ds.length = count ∧ ds.all isAsciiDigit then some (digitsValue ds, cs.drop count) else none

def readPadded (cs : List Char) : Option (Nat × List Char) :=
  readNumber 2 (cs.dropWhile isBlank)

def readYear (cs : List Char) : Option (Int × List Char) :=
  match cs.dropWhile isBlank with
  | '-' :: cs => (readNumber cs.length cs).map fun (n, rest) => (-(n : Int), rest)
  | '+' :: cs => (readNumber cs.length cs).map fun (n, rest) => ((n : Int), rest)
  | cs => (readNumber 4 cs).map fun (n, rest) => ((n : Int), rest)

namespace Date

def read (cs : List Char) : Option (Date × List Char) := do
  let (year, cs) ← readYear cs
  let cs ← afterPrefix? ['-'] cs
  let (month, cs) ← readPadded cs
  let cs ← afterPrefix? ['-'] cs
  let (day, cs) ← readPadded cs
  let date ← make year month day
  return (date, cs)

def parse (cs : List Char) : Option Date :=
  match read cs with
  | some (date, []) => some date
  | _ => none

/-- The date at the front of a text in the strict form: four, two and two digits. -/
def readStrict (cs : List Char) : Option (Date × List Char) := do
  let (year, cs) ← readExactly 4 cs
  let cs ← afterPrefix? ['-'] cs
  let (month, cs) ← readExactly 2 cs
  let cs ← afterPrefix? ['-'] cs
  let (day, cs) ← readExactly 2 cs
  let date ← make year month day
  return (date, cs)

end Date

/-- Whether six bytes are an offset in form: a sign first and a colon at the fourth byte. -/
def isOffsetForm (cs : List Char) : Bool :=
  (cs.head? == some '+' || cs.head? == some '-') &&
    match splitAtByte? 3 cs with
    | some (_, rest) => rest.head? == some ':'
    | none => false

/-- The text of a date and of the offset after it, if there is one: the letter `Z` or the last six
bytes. -/
def splitOffset (cs : List Char) : List Char × Option (List Char) :=
  match cs.reverse with
  | 'Z' :: date => (date.reverse, some ['Z'])
  | _ =>
    if 6 < byteCount cs then
      match splitAtByte? (byteCount cs - 6) cs with
      | some (date, tail) => if isOffsetForm tail then (date, some tail) else (cs, none)
      | none => (cs, none)
    else (cs, none)

end InfoModel

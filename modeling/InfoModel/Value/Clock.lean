import InfoModel.Value.Calendar

/-!
# Times of day and instants

A time of day has a resolution of one nanosecond. A leap second is the 59th second with a billion
nanoseconds or more. An instant is a date with a time of day, and may have an offset from universal
time.
-/

namespace InfoModel
open InfoModel.Text InfoModel.Unicode

structure TimeOfDay where
  hour : Nat
  minute : Nat
  second : Nat
  nano : Nat
deriving Repr, DecidableEq

namespace TimeOfDay

/-- The time with the given parts, if there is one; the 60th second is a leap second. -/
def make (hour minute second nano : Nat) : Option TimeOfDay :=
  if hour < 24 ∧ minute < 60 ∧ second < 60 then some ⟨hour, minute, second, nano⟩
  else if hour < 24 ∧ minute < 60 ∧ second = 60 then some ⟨hour, minute, 59, 1000000000 + nano⟩
  else none

/-- The nanoseconds of a fraction, of which only the first nine digits count. -/
def nanosOf (ds : List Char) : Nat :=
  let ds := ds.take 9
  digitsValue ds * Nat.pow 10 (9 - ds.length)

def readFraction (cs : List Char) : Option (Nat × List Char) :=
  match cs with
  | '.' :: rest =>
    let ds := rest.takeWhile isAsciiDigit
    if ds.isEmpty then none else some (nanosOf ds, rest.dropWhile isAsciiDigit)
  | _ => some (0, cs)

def readWith (number : List Char → Option (Nat × List Char)) (cs : List Char) :
    Option (TimeOfDay × List Char) := do
  let (hour, cs) ← number cs
  let cs ← afterPrefix? [':'] cs
  let (minute, cs) ← number cs
  let cs ← afterPrefix? [':'] cs
  let (second, cs) ← number cs
  let (nano, cs) ← readFraction cs
  let time ← make hour minute second nano
  return (time, cs)

end TimeOfDay

structure DateTime where
  date : Date
  time : TimeOfDay
deriving Repr, DecidableEq

/-- An instant: local date and time, and the seconds by which they are ahead of universal time. -/
structure Instant where
  clock : DateTime
  offset : Int
deriving Repr, DecidableEq

def DateTime.parse (cs : List Char) : Option DateTime := do
  let (date, cs) ← Date.read cs
  let cs ← afterPrefix? ['T'] cs
  let (time, cs) ← TimeOfDay.readWith readPadded cs
  if cs.isEmpty then some ⟨date, time⟩ else none

namespace Instant

def readHoursMinutes (cs : List Char) : Option Int := do
  let (hours, cs) ← readExactly 2 cs
  let cs ← afterPrefix? [':'] cs
  let (minutes, cs) ← readExactly 2 cs
  if cs.isEmpty ∧ hours < 24 ∧ minutes < 60 then some ((hours * 3600 + minutes * 60 : Nat) : Int)
  else none

/-- The offset that the whole text writes: `Z`, or a sign with hours and minutes. -/
def parseOffset (cs : List Char) : Option Int :=
  match cs with
  | ['Z'] | ['z'] => some 0
  | '+' :: cs => readHoursMinutes cs
  | '-' :: cs => (readHoursMinutes cs).map fun n => -n
  | '\u2212' :: cs => (readHoursMinutes cs).map fun n => -n
  | _ => none

def afterSeparator (cs : List Char) : Option (List Char) :=
  match cs with
  | c :: rest => if c = 'T' ∨ c = 't' ∨ c = ' ' then some rest else none
  | [] => none

/-- The instant that the whole text writes, in the strict form with all digits and an offset. -/
def parse (cs : List Char) : Option Instant := do
  let (date, cs) ← Date.readStrict cs
  let cs ← afterSeparator cs
  let (time, cs) ← TimeOfDay.readWith (readExactly 2) cs
  let offset ← parseOffset cs
  return ⟨⟨date, time⟩, offset⟩

end Instant

end InfoModel

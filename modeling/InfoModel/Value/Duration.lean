import InfoModel.Value.Decimal

/-!
# Durations

A duration is written as an optional minus sign, the letter `P` and components, each a number before
the letter of its unit. Units stand in their order, and those of less than a day follow the letter
`T`. Only the last unit of the time of day admits a fraction.
-/

namespace InfoModel.Duration
open InfoModel.Text InfoModel.Unicode

/-- The units of a kind of duration: those of its date part and those after the `T`. -/
structure Units where
  date : List Char
  time : List Char

def dayTime : Units := ⟨['D'], ['H', 'M', 'S']⟩

def yearMonth : Units := ⟨['Y', 'M'], []⟩

def isNumberPart (c : Char) : Bool := isAsciiDigit c || c = '.'

/-- Whether a text is the number of a component, which may have a fraction or not. -/
def isNumber (fraction : Bool) (cs : List Char) : Bool :=
  !cs.isEmpty && (fraction || !cs.contains '.') && (Decimal.parse cs).isSome

/-- What follows the first occurrence of a unit among the units. -/
def unitsAfter (unit : Char) : List Char → Option (List Char)
  | [] => none
  | u :: rest => if u = unit then some rest else unitsAfter unit rest

theorem length_unitsAfter_lt {unit : Char} {units left : List Char}
    (h : unitsAfter unit units = some left) : left.length < units.length := by
  induction units with
  | nil => simp [unitsAfter] at h
  | cons u rest ih =>
    by_cases hu : u = unit
    · simp [unitsAfter, hu] at h
      simp [h]
    · simp only [unitsAfter, hu, if_false] at h
      have := ih h
      simp only [List.length_cons]
      omega

/-- The number of components of a text whose units are among `units`, in their order; `fraction`
tells whether the last of the units admits a fraction. -/
def countComponents (fraction : Bool) (units cs : List Char) : Option Nat :=
  if cs.isEmpty then some 0
  else match cs.dropWhile isNumberPart with
    | [] => none
    | unit :: rest =>
      match h : unitsAfter unit units with
      | none => none
      | some left =>
        if isNumber (fraction && left.isEmpty) (cs.takeWhile isNumberPart) then
          (countComponents fraction left rest).map (· + 1)
        else none
termination_by units.length
decreasing_by exact length_unitsAfter_lt h

/-- Whether what follows the `P` is a sequence of components, at least one in all and at least one
after a `T`. -/
def isBody (units : Units) (cs : List Char) : Bool :=
  match cutFirst 'T' cs with
  | some (date, time) =>
    match countComponents false units.date date, countComponents true units.time time with
    | some _, some n => 0 < n
    | _, _ => false
  | none =>
    match countComponents false units.date cs with
    | some n => 0 < n
    | none => false

def unsigned (cs : List Char) : List Char :=
  match cs with
  | '-' :: rest => rest
  | _ => cs

def isDuration (units : Units) (cs : List Char) : Bool :=
  match unsigned cs with
  | 'P' :: body => isBody units body
  | _ => false

end InfoModel.Duration

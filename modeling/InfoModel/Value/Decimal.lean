import InfoModel.Text.Digits
import InfoModel.Text.Trim

/-!
# Integers and decimals

An integer is written as a run of digits after at most one sign. A decimal is written as an integer
with at most one point among its characters: the digits without the point are its unscaled value,
and the number of characters after the point is its scale.
-/

namespace InfoModel
open InfoModel.Text

def readInt? (cs : List Char) : Option Int :=
  match cs with
  | '-' :: ds => (natOfDigits? ds).map fun n => -(n : Int)
  | '+' :: ds => (natOfDigits? ds).map fun n => (n : Int)
  | ds => (natOfDigits? ds).map fun n => (n : Int)

def isIntegerText (cs : List Char) : Bool := (readInt? cs).isSome

/-- A decimal: `unscaled` divided by ten to the `scale`. -/
structure Decimal where
  unscaled : Int
  scale : Nat
deriving Repr, DecidableEq

namespace Decimal

/-- The characters without the first point, and how many stand after it. -/
def withoutPoint (cs : List Char) : List Char × Nat :=
  match cutFirst '.' cs with
  | some (before, after) => (before ++ after, after.length)
  | none => (cs, 0)

/-- The decimal written: the characters without the point are read as an integer. -/
def parse (cs : List Char) : Option Decimal :=
  let (digits, scale) := withoutPoint cs
  (readInt? digits).map fun n => ⟨n, scale⟩

end Decimal

end InfoModel

import InfoModel.Unicode.Letter

/-!
# Decimal digits

A non-empty run of ASCII digits denotes a natural number. Reading takes the most significant digit
first; writing uses no leading zero.
-/

namespace InfoModel.Text
open InfoModel.Unicode

def digitValue (c : Char) : Nat := c.toNat - '0'.toNat

def digitsValue (cs : List Char) : Nat := cs.foldl (fun n c => n * 10 + digitValue c) 0

def isDigits (cs : List Char) : Bool := !cs.isEmpty && cs.all isAsciiDigit

def natOfDigits? (cs : List Char) : Option Nat :=
  if isDigits cs then some (digitsValue cs) else none

def digitsOf (n : Nat) : List Char := Nat.toDigits 10 n

def natText (n : Nat) : String := String.ofList (digitsOf n)

/-- The text of an integer: a minus sign where it is negative, then the digits of its size. -/
def intText (n : Int) : String :=
  if n < 0 then "-" ++ natText n.natAbs else natText n.natAbs

def boolText (b : Bool) : String := if b then "true" else "false"

/-- The digits of a number in lower-case hexadecimal, without leading zeros. -/
def hexText (n : Nat) : String := String.ofList (Nat.toDigits 16 n)

/-- The number written in hexadecimal, without check of the digits. -/
def hexValue (cs : List Char) : Nat :=
  cs.foldl (fun n c => n * 16 +
    (if isAsciiDigit c then digitValue c else (asciiLower c).toNat - 'a'.toNat + 10)) 0

end InfoModel.Text

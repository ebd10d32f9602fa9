import InfoModel.Text.Digits

/-!
# Binary floating point numbers

A finite 64-bit binary number is a sign, a significand below two to the 53rd and a power of two that
is at least minus 1074. A decimal is read as the nearest such number, and a number is written with
the fewest decimal digits that are read back as it. All arithmetic is exact, on natural numbers.
-/

namespace InfoModel.Number
open InfoModel.Text

/-- A finite 64-bit binary number: plus or minus `significand` times two to the `exponent`. -/
structure Binary64 where
  negative : Bool
  significand : Nat
  exponent : Int
deriving Repr, DecidableEq

def significandBound : Nat := 9007199254740992

structure Ratio where
  num : Nat
  den : Nat
deriving Repr, DecidableEq

/-- The ratio `r` times `base` to the `power`, which may be negative. -/
def Ratio.scale (r : Ratio) (base : Nat) (power : Int) : Ratio :=
  if 0 ≤ power then ⟨r.num * Nat.pow base power.toNat, r.den⟩
  else ⟨r.num, r.den * Nat.pow base (-power).toNat⟩

/-- The quotient rounded to the nearest natural number, a half to the even neighbour. -/
def Ratio.roundEven (r : Ratio) : Nat :=
  let q := r.num / r.den
  let twice := 2 * (r.num % r.den)
  if twice < r.den then q
  else if r.den < twice then q + 1
  else if q % 2 = 0 then q else q + 1

/-- The least power of two, not under minus 1074, in units of which `r` is below two to the 53rd. -/
def unitExponent (r : Ratio) : Int :=
  let estimate : Int := (r.num.log2 : Int) - (r.den.log2 : Int) - 53
  let fits (q : Int) : Bool :=
    let scaled := r.scale 2 (-q)
    scaled.num / scaled.den < significandBound
  let q := if fits estimate then estimate
    else if fits (estimate + 1) then estimate + 1 else estimate + 2
  max q (-1074)

/-- The binary number nearest to plus or minus `digits` times ten to the `power`. -/
def Binary64.nearest (negative : Bool) (digits : Nat) (power : Int) : Binary64 :=
  let r := Ratio.scale ⟨digits, 1⟩ 10 power
  if digits = 0 then ⟨negative, 0, -1074⟩
  else
    let q := unitExponent r
    let m := (r.scale 2 (-q)).roundEven
    if m = significandBound then ⟨negative, m / 2, q + 1⟩ else ⟨negative, m, q⟩

def digitCount (n : Nat) : Nat := if n = 0 then 0 else (digitsOf n).length

/-- The power `k` of ten for which `r` lies between ten to the `k - 1` and ten to the `k`. -/
def decimalExponent (r : Ratio) : Int :=
  if r.den ≤ r.num then digitCount (r.num / r.den)
  else 1 - (digitCount ((r.den + r.num - 1) / r.num - 1) : Int)

def Binary64.magnitude (x : Binary64) : Ratio := Ratio.scale ⟨x.significand, 1⟩ 2 x.exponent

/-- Whether `digits` times ten to the `power` is read as a number of the size of `x`. -/
def Binary64.readsBack (x : Binary64) (digits : Nat) (power : Int) : Bool :=
  let y := Binary64.nearest x.negative digits power
  y.magnitude.num * x.magnitude.den == x.magnitude.num * y.magnitude.den

/-- Of the two decimals with unit ten to the `power` around the size of `x`, the one read as `x`; of
two, the nearer, and on a tie the larger. -/
def Binary64.onGrid (x : Binary64) (power : Int) : Option Nat :=
  let scaled := x.magnitude.scale 10 (-power)
  let below := scaled.num / scaled.den
  let above := below + 1
  match x.readsBack below power, x.readsBack above power with
  | true, true =>
    if 2 * (scaled.num % scaled.den) < scaled.den then some below else some above
  | true, false => some below
  | false, true => some above
  | false, false => none

/-- The coarsest decimal that is read as `x`, over at most `fuel` grids from the unit ten to the
`power` downwards. -/
def Binary64.search (x : Binary64) : Nat → Int → Nat × Int
  | 0, power => (0, power)
  | fuel + 1, power =>
    match x.onGrid power with
    | some digits => (digits, power)
    | none => x.search fuel (power - 1)

/-- The fewest digits that are read as `x`, and the power of ten they are a multiple of. -/
def Binary64.shortest (x : Binary64) : Nat × Int :=
  x.search 18 (decimalExponent x.magnitude)

def positional (ds : List Char) (power : Int) : String :=
  if 0 ≤ power then String.ofList (ds ++ List.replicate power.toNat '0')
  else
    let places := (-power).toNat
    if places < ds.length then
      String.ofList (ds.take (ds.length - places) ++ '.' :: ds.drop (ds.length - places))
    else String.ofList ('0' :: '.' :: (List.replicate (places - ds.length) '0' ++ ds))

/-- The decimal text of `x`: the fewest digits that are read back, never with an exponent. -/
def Binary64.text (x : Binary64) : String :=
  let sign := if x.negative then "-" else ""
  if x.significand = 0 then sign ++ "0"
  else
    let (digits, power) := x.shortest
    sign ++ positional (digitsOf digits) power

end InfoModel.Number

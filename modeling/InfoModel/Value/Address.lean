import InfoModel.Text.Digits
import InfoModel.Text.Trim

/-!
# Network addresses

A version 4 address is four numbers below 256, written in decimal and separated by dots. A version 6
address is eight numbers below two to the 16th, written in hexadecimal and separated by colons; one
run of zeros may be left out between two colons, and the last two numbers may be written as a
version 4 address.
-/

namespace InfoModel
open InfoModel.Text InfoModel.Unicode

structure Ipv4 where
  octets : List Nat
deriving Repr, DecidableEq

namespace Ipv4

/-- Reads one number of a version 4 address: one to three digits, no leading zero, below 256. -/
def readOctet (cs : List Char) : Option (Nat × List Char) :=
  let ds := cs.takeWhile isAsciiDigit
  if ds.isEmpty || 3 < ds.length || (ds.head? == some '0' && 1 < ds.length) then none
  else
    let n := digitsValue ds
    if n < 256 then some (n, cs.dropWhile isAsciiDigit) else none

def readMore : Nat → List Char → Option (List Nat × List Char)
  | 0, cs => some ([], cs)
  | count + 1, '.' :: cs =>
    match readOctet cs with
    | none => none
    | some (n, rest) => (readMore count rest).map fun (ns, rest) => (n :: ns, rest)
  | _ + 1, _ => none

def read (cs : List Char) : Option (Ipv4 × List Char) :=
  match readOctet cs with
  | none => none
  | some (n, rest) => (readMore 3 rest).map fun (ns, rest) => (⟨n :: ns⟩, rest)

def parse (cs : List Char) : Option Ipv4 :=
  match read cs with
  | some (a, []) => some a
  | _ => none

def ofNat (n : Nat) : Ipv4 := ⟨[n / 16777216 % 256, n / 65536 % 256, n / 256 % 256, n % 256]⟩

def text (a : Ipv4) : String := String.intercalate "." (a.octets.map natText)

end Ipv4

structure Ipv6 where
  groups : List Nat
deriving Repr, DecidableEq

namespace Ipv6

def readGroup (cs : List Char) : Option (Nat × List Char) :=
  let ds := (cs.take 4).takeWhile isHexDigit
  if ds.isEmpty then none
  else if (cs.drop ds.length).head?.any isHexDigit then none
  else some (hexValue ds, cs.drop ds.length)

/-- The text after the colon that must stand before every number but the first. -/
def afterColon (first : Bool) (cs : List Char) : Option (List Char) :=
  if first then some cs else afterPrefix? [':'] cs

/-- Reads up to `room` numbers; at the end also tells whether the last two were a version 4
address. -/
def readGroups : (room : Nat) → (first : Bool) → List Char → List Nat × Bool × List Char
  | 0, _, cs => ([], false, cs)
  | room + 1, first, cs =>
    let embedded := if room = 0 then none else (afterColon first cs).bind Ipv4.read
    match embedded with
    | some (⟨[a, b, c, d]⟩, rest) => ([a * 256 + b, c * 256 + d], true, rest)
    | _ =>
      match (afterColon first cs).bind readGroup with
      | none => ([], false, cs)
      | some (n, rest) =>
        let (ns, isV4, rest) := readGroups room false rest
        (n :: ns, isV4, rest)

def parse (cs : List Char) : Option Ipv6 :=
  let (front, isV4, rest) := readGroups 8 true cs
  if front.length = 8 then if rest.isEmpty then some ⟨front⟩ else none
  else if isV4 then none
  else match afterPrefix? [':', ':'] rest with
    | none => none
    | some rest =>
      let (back, _, rest) := readGroups (7 - front.length) true rest
      if rest.isEmpty then
        some ⟨front ++ List.replicate (8 - front.length - back.length) 0 ++ back⟩
      else none

def zeroRun (ns : List Nat) : Nat := (ns.takeWhile (· = 0)).length

/-- The place and length of the longest run of zeros; of several, the first. -/
def longestZeros : (place : Nat) → List Nat → Nat × Nat
  | _, [] => (0, 0)
  | place, n :: ns =>
    let here := zeroRun (n :: ns)
    let later := longestZeros (place + 1) ns
    if later.2 ≤ here then (place, here) else later

def groupsText (ns : List Nat) : String := String.intercalate ":" (ns.map hexText)

/-- The written form with the longest run of two or more zeros left out. -/
def hexForm (a : Ipv6) : String :=
  let (place, count) := longestZeros 0 a.groups
  if 1 < count then
    groupsText (a.groups.take place) ++ "::" ++ groupsText (a.groups.drop (place + count))
  else groupsText a.groups

/-- The written form: a version 4 address mapped into version 6 keeps its dots. -/
def text (a : Ipv6) : String :=
  match a.groups with
  | [0, 0, 0, 0, 0, 0xffff, m, n] =>
    "::ffff:" ++ (Ipv4.mk [m / 256, m % 256, n / 256, n % 256]).text
  | _ => a.hexForm

end Ipv6

end InfoModel

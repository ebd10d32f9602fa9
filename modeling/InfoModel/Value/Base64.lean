import InfoModel.Text.Digits

/-!
# Bytes in base 64

Three bytes are written as four letters of an alphabet of 64. At the end of the bytes one or two
that are left over are written as two or three letters, filled up to four by equals signs; the bits
that no byte needs are zero. Main functions: `encode` and `decode`.
-/

namespace InfoModel.Base64
open InfoModel.Unicode

def letter (n : Nat) : Char :=
  if n < 26 then Char.ofNat (65 + n)
  else if n < 52 then Char.ofNat (97 + (n - 26))
  else if n < 62 then Char.ofNat (48 + (n - 52))
  else if n = 62 then '+' else '/'

def letterValue? (c : Char) : Option Nat :=
  if 'A' ≤ c && c ≤ 'Z' then some (c.toNat - 65)
  else if 'a' ≤ c && c ≤ 'z' then some (c.toNat - 97 + 26)
  else if isAsciiDigit c then some (c.toNat - 48 + 52)
  else if c = '+' then some 62
  else if c = '/' then some 63
  else none

def encode : List UInt8 → List Char
  | [] => []
  | [a] =>
    let n := a.toNat
    [letter (n / 4), letter (n % 4 * 16), '=', '=']
  | [a, b] =>
    let n := a.toNat * 256 + b.toNat
    [letter (n / 1024), letter (n / 16 % 64), letter (n % 16 * 4), '=']
  | a :: b :: c :: rest =>
    let n := a.toNat * 65536 + b.toNat * 256 + c.toNat
    letter (n / 262144) :: letter (n / 4096 % 64) :: letter (n / 64 % 64) :: letter (n % 64) ::
      encode rest

/-- The bytes of the last four letters, if they are filled up by equals signs. -/
def decodeFilled (p q r s : Char) : Option (List UInt8) :=
  match letterValue? p, letterValue? q, letterValue? r with
  | some a, some b, some c =>
    if s = '=' ∧ c % 4 = 0 then
      some [UInt8.ofNat (a * 4 + b / 16), UInt8.ofNat (b % 16 * 16 + c / 4)]
    else none
  | some a, some b, none =>
    if r = '=' ∧ s = '=' ∧ b % 16 = 0 then some [UInt8.ofNat (a * 4 + b / 16)] else none
  | _, _, _ => none

def decodeFull (p q r s : Char) : Option (List UInt8) :=
  match letterValue? p, letterValue? q, letterValue? r, letterValue? s with
  | some a, some b, some c, some d =>
    some [UInt8.ofNat (a * 4 + b / 16), UInt8.ofNat (b % 16 * 16 + c / 4),
      UInt8.ofNat (c % 4 * 64 + d)]
  | _, _, _, _ => none

/-- The bytes that the letters write; only what `encode` writes is read. -/
def decode : List Char → Option (List UInt8)
  | [] => some []
  | [p, q, r, s] =>
    match decodeFull p q r s with
    | some bytes => some bytes
    | none => decodeFilled p q r s
  | p :: q :: r :: s :: rest =>
    match decodeFull p q r s, decode rest with
    | some bytes, some more => some (bytes ++ more)
    | _, _ => none
  | _ => none

def hexForm (bytes : List UInt8) : String :=
  String.join (bytes.map fun b =>
    String.ofList [Nat.digitChar (b.toNat / 16), Nat.digitChar (b.toNat % 16)])

end InfoModel.Base64

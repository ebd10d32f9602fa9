import InfoModel.Uri.Basic
import InfoModel.Uri.Percent
import InfoModel.Value.Address

/-!
# Hosts

The host of a special scheme is a domain in lower case, a version 4 address in any of its numeric
forms, or a version 6 address in brackets. The host of any other scheme is kept as written. Domains
are restricted to ASCII: a domain with other characters is refused here, where international names
would be converted first.
-/

namespace InfoModel.Uri
open InfoModel.Text InfoModel.Unicode

def readNumeral (cs : List Char) : Option Nat :=
  let valueIn (base : Nat) (ok : Char → Bool) (ds : List Char) : Option Nat :=
    if ds.all ok then some (ds.foldl (fun n c => n * base + hexValue [c]) 0) else none
  match cs with
  | [] => none
  | '0' :: 'x' :: ds | '0' :: 'X' :: ds => valueIn 16 isHexDigit ds
  | '0' :: d :: ds => valueIn 8 (fun c => '0' ≤ c && c ≤ '7') (d :: ds)
  | ds => valueIn 10 isAsciiDigit ds

/-- The pieces of a domain, without the empty one after a last dot. -/
def numeralPieces (cs : List Char) : List (List Char) :=
  let ps := pieces '.' cs
  if ps.getLast? == some [] then ps.dropLast else ps

/-- Whether the last piece of a domain is numeric, so that the domain must be an address. -/
def endsInNumber (cs : List Char) : Bool :=
  match (numeralPieces cs).getLast? with
  | none => false
  | some last => isDigits last || (readNumeral last).isSome

/-- The version 4 address of the numbers, of which the last fills the rest of the address. -/
def addressOfNumbers (ns : List Nat) : Option Ipv4 :=
  match ns.reverse with
  | [] => none
  | last :: before =>
    let count := before.length
    let unit := Nat.pow 256 (4 - count)
    if 3 < count || before.any (255 < ·) || unit ≤ last then none
    else some (Ipv4.ofNat (before.foldr (fun n high => 256 * high + n) 0 * unit + last))

def readAddress (cs : List Char) : Option Ipv4 :=
  ((numeralPieces cs).mapM readNumeral).bind addressOfNumbers

def isForbiddenInDomain (c : Char) : Bool :=
  c.toNat ≤ 32 || 126 < c.toNat ||
    ['#', '%', '/', ':', '<', '>', '?', '@', '[', '\\', ']', '^', '`', '\x7b', '|',
      '\x7d'].contains c

/-- Whether a character may not stand in a host that is kept as written. -/
def isForbiddenInOpaqueHost (c : Char) : Bool :=
  ['\x00', '\t', '\n', '\x0d', ' ', '#', '/', ':', '<', '>', '?', '@', '[', '\\', ']', '^',
    '|'].contains c

def readBracketed (cs : List Char) : Option String :=
  match cs.getLast? with
  | some ']' => (Ipv6.parse cs.dropLast).map fun a => "[" ++ a.hexForm ++ "]"
  | _ => none

def readHost (cs : List Char) : Option String :=
  match cs with
  | '[' :: rest => readBracketed rest
  | _ =>
    let bytes := decodeBytes cs
    let domain := bytes.map fun n => asciiLower (Char.ofNat n)
    if domain.isEmpty || domain.any isForbiddenInDomain then none
    else if endsInNumber domain then (readAddress domain).map Ipv4.text
    else some (String.ofList domain)

/-- The written form of the host of any other scheme. -/
def readOpaqueHost (cs : List Char) : Option String :=
  match cs with
  | '[' :: rest => readBracketed rest
  | _ =>
    if cs.any isForbiddenInOpaqueHost then none
    else some (String.ofList (encode [] cs))

/-- Divides the text at the end of a host: a colon outside brackets, or the end of the
authority. -/
def splitHost (kind : SchemeKind) : (inBrackets : Bool) → List Char → List Char × List Char
  | _, [] => ([], [])
  | inBrackets, c :: cs =>
    if (c = ':' && !inBrackets) || (c = '\\' && kind.isSpecial) || c = '/' || c = '?' || c = '#'
    then ([], c :: cs)
    else
      let inBrackets := if c = '[' then true else if c = ']' then false else inBrackets
      let (host, rest) := splitHost kind inBrackets cs
      (c :: host, rest)

end InfoModel.Uri

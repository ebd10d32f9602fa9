import InfoModel.Text.Digits
import InfoModel.Text.Trim

/-!
# Universally unique identifiers

An identifier is 32 hexadecimal digits. It is written as such, or with hyphens that divide the
digits into groups of 8, 4, 4, 4 and 12; the hyphenated form may stand in braces or after
`urn:uuid:`.
-/

namespace InfoModel
open InfoModel.Text InfoModel.Unicode

structure Uuid where
  digits : List Char
deriving Repr, DecidableEq

namespace Uuid

def groupLengths : List Nat := [8, 4, 4, 4, 12]

def ofDigits (cs : List Char) : Option Uuid :=
  if cs.length = 32 ∧ cs.all isHexDigit then some ⟨cs.map asciiLower⟩ else none

def ofHyphenated (cs : List Char) : Option Uuid :=
  let groups := pieces '-' cs
  if groups.map List.length = groupLengths then ofDigits groups.flatten else none

def betweenBraces (cs : List Char) : Option (List Char) :=
  match afterPrefix? ['\x7b'] cs with
  | none => none
  | some rest =>
    match rest.reverse with
    | '\x7d' :: inner => some inner.reverse
    | _ => none

/-- The characters after `urn:uuid:`, in any case. -/
def afterUrn (cs : List Char) : Option (List Char) :=
  if (cs.take 9).map asciiLower = "urn:uuid:".toList then some (cs.drop 9) else none

def parse (cs : List Char) : Option Uuid :=
  match betweenBraces cs with
  | some inner => ofHyphenated inner
  | none =>
    match afterUrn cs with
    | some rest => ofHyphenated rest
    | none => if cs.contains '-' then ofHyphenated cs else ofDigits cs

def split : List Nat → List Char → List (List Char)
  | [], _ => []
  | n :: ns, cs => cs.take n :: split ns (cs.drop n)

def text (u : Uuid) : String :=
  String.intercalate "-" ((split groupLengths u.digits).map String.ofList)

end Uuid

end InfoModel

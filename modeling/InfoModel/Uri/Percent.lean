import InfoModel.Text.Digits

/-!
# Percent encoding

A character that may not stand in a part of an identifier is replaced by its UTF-8 bytes, each as a
percent sign and two hexadecimal digits. Controls and characters beyond ASCII are replaced in every
part; each part adds characters of its own.
-/

namespace InfoModel.Uri
open InfoModel.Text InfoModel.Unicode

/-- Whether a character is replaced in every part. -/
def isControl (c : Char) : Bool := c.toNat < 32 || 126 < c.toNat

def fragmentEscapes : List Char := [' ', '"', '<', '>', '`']

def pathEscapes : List Char := fragmentEscapes ++ ['#', '?', '\x7b', '\x7d']

def userinfoEscapes : List Char :=
  pathEscapes ++ ['/', ':', ';', '=', '@', '[', '\\', ']', '^', '|']

def queryEscapes : List Char := [' ', '"', '#', '<', '>']

def specialQueryEscapes : List Char := '\x27' :: queryEscapes

def byteDigits (n : Nat) : List Char :=
  let digit (k : Nat) : Char := if k < 10 then Char.ofNat (48 + k) else Char.ofNat (55 + k)
  [digit (n / 16 % 16), digit (n % 16)]

/-- One character of a part that escapes the controls and `escapes`. -/
def encodeChar (escapes : List Char) (c : Char) : List Char :=
  if isControl c || escapes.contains c then
    (String.utf8EncodeChar c).flatMap fun b => '%' :: byteDigits b.toNat
  else [c]

def encode (escapes : List Char) (cs : List Char) : List Char := cs.flatMap (encodeChar escapes)

/-- The bytes of a text whose percent-encoded bytes are decoded, for ASCII texts; a character beyond
ASCII gives its UTF-8 bytes. -/
def decodeBytes : List Char → List Nat
  | [] => []
  | c :: cs =>
    match c, cs with
    | '%', a :: b :: rest =>
      if isHexDigit a && isHexDigit b then hexValue [a, b] :: decodeBytes rest
      else 37 :: decodeBytes (a :: b :: rest)
    | c, cs => (String.utf8EncodeChar c).map (·.toNat) ++ decodeBytes cs

end InfoModel.Uri

import InfoModel.Text.Digits

/-!
# Quoted text

Messages quote the texts they speak of. A quoted text stands between double quotes and a quoted
character between single quotes; the quote itself, the backslash, the line controls and everything
that would not show are written as escapes.
-/

namespace InfoModel.Text
open InfoModel.Unicode

def codeEscape (c : Char) : String := "\\u\x7b" ++ hexText c.toNat ++ "\x7d"

/-- One character of a text quoted by `quote`. -/
def quotedChar (quote c : Char) : String :=
  if c = quote then String.ofList ['\\', quote]
  else match c with
    | '\x00' => "\\0"
    | '\t' => "\\t"
    | '\n' => "\\n"
    | '\x0d' => "\\r"
    | '\\' => "\\\\"
    | c => if isPrintable c then String.ofList [c] else codeEscape c

def quoted (s : String) : String :=
  "\"" ++ String.join (s.toList.map (quotedChar '"')) ++ "\""

def quotedLetter (c : Char) : String := "'" ++ quotedChar '\'' c ++ "'"

end InfoModel.Text

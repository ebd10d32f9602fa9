import InfoModel.Tree.Basic

/-!
# Writing documents

A tree is written as JSON text on one line, without gaps. Control characters, the quote and the
backslash are escaped; every other character stands as it is.
-/

namespace InfoModel.Tree
open InfoModel.Text

/-- The hexadecimal digits of `n`, filled up with zeros to four. -/
def fourDigits (n : Nat) : String :=
  let ds := Nat.toDigits 16 n
  String.ofList (List.replicate (4 - ds.length) '0' ++ ds)

def escaped (c : Char) : String :=
  match c with
  | '"' => "\\\""
  | '\\' => "\\\\"
  | '\n' => "\\n"
  | '\t' => "\\t"
  | '\x0d' => "\\r"
  | c => if c.toNat < 32 then "\\u" ++ fourDigits c.toNat else String.ofList [c]

def writtenText (s : String) : String :=
  "\"" ++ String.join (s.toList.map escaped) ++ "\""

mutual

def toText : Tree → String
  | .null => "null"
  | .bool b => boolText b
  | .integer n => intText n
  | .real x => x.text
  | .text s => writtenText s
  | .list items => "[" ++ itemsText items ++ "]"
  | .record entries => "\x7b" ++ entriesText entries ++ "\x7d"

def itemsText : List Tree → String
  | [] => ""
  | [t] => toText t
  | t :: u :: rest => toText t ++ "," ++ itemsText (u :: rest)

def entriesText : List (String × Tree) → String
  | [] => ""
  | [(key, t)] => writtenText key ++ ":" ++ toText t
  | (key, t) :: e :: rest => writtenText key ++ ":" ++ toText t ++ "," ++ entriesText (e :: rest)

end

end InfoModel.Tree

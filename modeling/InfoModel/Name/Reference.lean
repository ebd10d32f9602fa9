import InfoModel.Collection.SortedMap
import InfoModel.Name.QName
import InfoModel.Text.Trim

/-!
# References by name

A reference is written in one of three forms: with its namespace in braces, with a prefix that is
bound to a namespace, or as a bare local name, which takes the default namespace.
-/

namespace InfoModel
open InfoModel.Text

/-- Namespaces bound to prefixes, in order of the prefixes. -/
structure Bindings where
  table : SortedMap String String
deriving Repr, DecidableEq

namespace Bindings

def empty : Bindings := ⟨SortedMap.empty⟩

/-- Binds the pairs of prefix and namespace one after the other; a later binding of a prefix
replaces an earlier one. -/
def ofList (pairs : List (String × String)) : Bindings := ⟨SortedMap.ofList pairs⟩

def resolve (b : Bindings) (head : String) : Option String := b.table.get? head

def entries (b : Bindings) : List (String × String) := b.table.entries

end Bindings

def QName.parseBraced (whole : String) (cs : List Char) : Except Fault QName :=
  match cutFirst '\x7d' cs with
  | none => .error (.invalidName whole .unterminated)
  | some (uri, localName) =>
    if uri.contains '\x7b' then .error (.invalidName whole .nestedBrace)
    else QName.make (some (String.ofList uri)) (String.ofList localName)

def QName.parsePrefixed (whole : String) (b : Bindings) (head localName : List Char) :
    Except Fault QName :=
  match nameFault? head with
  | some cause => .error (.invalidName (String.ofList head) cause)
  | none =>
    match b.resolve (String.ofList head) with
    | none => .error (.unboundPrefix (String.ofList head) whole)
    | some uri => QName.make (some uri) (String.ofList localName)

/-- Reads a reference in any of its three forms. -/
def QName.parse (text : String) (b : Bindings) (default : Option String) : Except Fault QName :=
  let cs := trimChars text.toList
  let whole := String.ofList cs
  match afterPrefix? ['Q', '\x7b'] cs with
  | some rest => QName.parseBraced whole rest
  | none =>
    match cutFirst ':' cs with
    | some (head, localName) => QName.parsePrefixed whole b head localName
    | none => QName.make default whole

end InfoModel

import InfoModel.Text.Digits
import InfoModel.Text.Trim

/-!
# Uniform resource identifiers

An identifier is a scheme, an optional authority, a path, and optionally a query and a fragment. The
parts are kept in their written form, percent-encoded, so that writing an identifier only joins
them.
-/

namespace InfoModel
open InfoModel.Text

structure Authority where
  userinfo : Option String
  host : String
  port : Option Nat
deriving Repr, DecidableEq

def Authority.text (a : Authority) : String :=
  (match a.userinfo with | some u => u ++ "@" | none => "") ++ a.host ++
    (match a.port with | some p => ":" ++ natText p | none => "")

structure Uri where
  scheme : String
  authority : Option Authority
  path : List Char
  query : Option String
  fragment : Option String
deriving Repr, DecidableEq

namespace Uri

/-- Whether the path is opaque: relative references cannot be resolved against it. -/
def isOpaque (u : Uri) : Bool := u.authority.isNone && u.path.head? != some '/'

/-- The written form. A path that starts with two slashes is kept apart from an authority by a dot
segment. -/
def text (u : Uri) : String :=
  u.scheme ++ ":" ++
    (match u.authority with
      | some a => "//" ++ a.text
      | none => if u.path.take 2 = ['/', '/'] then "/." else "") ++
    String.ofList u.path ++
    (match u.query with | some q => "?" ++ q | none => "") ++
    (match u.fragment with | some f => "#" ++ f | none => "")

def withoutFragment (u : Uri) : Uri := { u with fragment := none }

end Uri

/-- How the parts after the scheme are read. -/
inductive SchemeKind where
  | file
  | special
  | other
deriving Repr, DecidableEq

namespace SchemeKind

def of (scheme : String) : SchemeKind :=
  if scheme = "file" then .file
  else if ["http", "https", "ws", "wss", "ftp"].contains scheme then .special
  else .other

/-- Whether backslashes count as slashes and the path is never empty. -/
def isSpecial : SchemeKind → Bool
  | .other => false
  | _ => true

end SchemeKind

def defaultPort (scheme : String) : Option Nat :=
  match scheme with
  | "http" | "ws" => some 80
  | "https" | "wss" => some 443
  | "ftp" => some 21
  | _ => none

end InfoModel

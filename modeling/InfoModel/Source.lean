import InfoModel.Name.Reference
import InfoModel.Uri.Basic

/-!
# Provenance

Whatever a module declares remembers the module: its short name, where its document is, and what is
needed to read the names and expressions written in it.
-/

namespace InfoModel

/-- What is needed to read the names and expressions of a module. -/
structure NameContext where
  baseUri : Option Uri
  defaultSpace : Option String
  bindings : Bindings
deriving Repr, DecidableEq

def NameContext.empty : NameContext := ⟨none, none, Bindings.empty⟩

/-- Where something was declared. -/
structure Source where
  shortName : String
  location : Option Uri
  context : NameContext
deriving Repr, DecidableEq

namespace Source

/-- The source of a module without location and context. -/
def detached (shortName : String) : Source := ⟨shortName, none, .empty⟩

def text (s : Source) : String :=
  "module '" ++ s.shortName ++ "'" ++
    match s.location with
    | some u => " (" ++ u.text ++ ")"
    | none => ""

/-- Reads a reference by name as it stands in the source. -/
def readName (s : Source) (reference : String) : Except Fault QName :=
  QName.parse reference s.context.bindings s.context.defaultSpace

end Source

end InfoModel

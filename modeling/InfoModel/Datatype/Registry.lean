import InfoModel.Collection.SortedMap
import InfoModel.Datatype.Parse
import InfoModel.Event

/-!
# Registries of datatypes

A registry finds a datatype by name. The standard registry knows every standard datatype by its
names; further names may be registered, for these or for other datatypes, and a name registered
again stands for the later datatype.
-/

namespace InfoModel

/-- Datatypes by name. -/
structure Registry where
  table : SortedMap String Datatype

namespace Registry

def standard : Registry :=
  ⟨SortedMap.ofList (Datatype.all.flatMap fun d => d.names.map fun n => (n, d))⟩

def lookup (r : Registry) (name : String) : Option Datatype := r.table.get? name

def resolve (r : Registry) (name : String) : Except Fault Datatype :=
  match r.lookup name with
  | some d => .ok d
  | none => .error (.unknownDatatype name)

/-- The datatype of a declaration that may leave it out. -/
def resolveOrDefault (r : Registry) (name : Option String) : Except Fault Datatype :=
  r.resolve (name.getD Datatype.string.name)

/-- The registry in which `name` stands for `d`, and what is noticed if it stood for another. -/
def register (r : Registry) (name : String) (d : Datatype) : Registry × List Event :=
  (⟨r.table.insert name d⟩, if (r.lookup name).isSome then [.replacedDatatype name] else [])

def names (r : Registry) : List String := r.table.keys

end Registry

end InfoModel

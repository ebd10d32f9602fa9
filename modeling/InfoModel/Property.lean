import InfoModel.Collection.SortedMap
import InfoModel.Tree.Field

/-!
# Properties

Definitions, instances and constraints carry properties: values under a name in a namespace. The
values of one key are kept together, each once, in the order in which they first occur.
-/

namespace InfoModel

/-- A property as written; without a namespace it is in the default one. -/
structure PropertyDecl where
  name : String
  space : Option String
  value : String
deriving Repr, DecidableEq

def PropertyDecl.ofTree? (t : Tree) : Option PropertyDecl := do
  return ⟨← t.field "name" Tree.text?, ← t.optionalText "namespace", ← t.field "value" Tree.text?⟩

def defaultPropertySpace : String := "http://csrc.nist.gov/ns/oscal/metaschema/1.0"

structure PropertyKey where
  space : String
  name : String
deriving Repr, DecidableEq

/-- Keys are ordered by namespace, then by name. -/
instance : Ord PropertyKey where
  compare a b := (compare a.space b.space).then (compare a.name b.name)

def PropertyKey.of (space : Option String) (name : String) : PropertyKey :=
  ⟨space.getD defaultPropertySpace, name⟩

def PropertyDecl.key (p : PropertyDecl) : PropertyKey := .of p.space p.name

/-- Property values, grouped by key. -/
structure Properties where
  groups : SortedMap PropertyKey (List String)
deriving Repr, DecidableEq

namespace Properties

def empty : Properties := ⟨SortedMap.empty⟩

/-- The values with `value` at the end, unless it is there already. -/
def addValue (value : String) (values : List String) : List String :=
  if values.contains value then values else values ++ [value]

def add (ps : Properties) (p : PropertyDecl) : Properties :=
  ⟨ps.groups.alter p.key fun values => addValue p.value (values.getD [])⟩

def ofDecls (decls : List PropertyDecl) : Properties := decls.foldl add empty

/-- The values under a key, in order of first occurrence. -/
def values (ps : Properties) (key : PropertyKey) : List String := (ps.groups.get? key).getD []

def contains (ps : Properties) (key : PropertyKey) (value : String) : Bool :=
  (ps.values key).contains value

end Properties

end InfoModel

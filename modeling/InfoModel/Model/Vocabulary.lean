/-!
# Vocabulary of models

The fixed vocabularies of a module: the kinds of definition, who may see a definition, how an
instance comes by its definition, and how repeated instances are grouped.
-/

namespace InfoModel

inductive Kind where
  | assembly
  | field
  | flag
deriving Repr, DecidableEq

namespace Kind

def text : Kind → String
  | .assembly => "assembly"
  | .field => "field"
  | .flag => "flag"

def all : List Kind := [.assembly, .field, .flag]

end Kind

/-- Who sees a definition: all modules that import its own, or only its own. -/
inductive Scope where
  | shared
  | internal
deriving Repr, DecidableEq

namespace Scope

def text : Scope → String
  | .shared => "global"
  | .internal => "local"

def name : Scope → String
  | .shared => "Public"
  | .internal => "Private"

def vocabulary : List (String × Scope) := [.shared, .internal].map fun s => (s.text, s)

def default : Scope := .shared

end Scope

/-- How an instance comes by its definition: it refers to one, or it holds one of its own. -/
inductive Form where
  | reference
  | inline
deriving Repr, DecidableEq

def Form.text : Form → String
  | .reference => "ref"
  | .inline => "inline"

/-- How repeated instances are written in JSON. -/
inductive JsonGrouping where
  | list
  | singletonOrList
  | keyed
deriving Repr, DecidableEq

namespace JsonGrouping

def text : JsonGrouping → String
  | .list => "ARRAY"
  | .singletonOrList => "SINGLETON_OR_ARRAY"
  | .keyed => "BY_KEY"

def vocabulary : List (String × JsonGrouping) :=
  [.list, .singletonOrList, .keyed].map fun g => (g.text, g)

def default : JsonGrouping := .singletonOrList

end JsonGrouping

/-- How repeated instances are written in XML: with an element around them or without. -/
inductive XmlGrouping where
  | grouped
  | ungrouped
deriving Repr, DecidableEq

namespace XmlGrouping

def text : XmlGrouping → String
  | .grouped => "GROUPED"
  | .ungrouped => "UNGROUPED"

def vocabulary : List (String × XmlGrouping) :=
  [.grouped, .ungrouped].map fun g => (g.text, g)

def default : XmlGrouping := .ungrouped

end XmlGrouping

inductive XmlWrapping where
  | wrapped
  | unwrapped
  | withWrapper
deriving Repr, DecidableEq

namespace XmlWrapping

def vocabulary : List (String × XmlWrapping) :=
  [("WRAPPED", .wrapped), ("UNWRAPPED", .unwrapped), ("WITH_WRAPPER", .withWrapper)]

end XmlWrapping

/-- The word that means yes for a switch of an instance; whatever else stands there means no. -/
def isYes (word : Option String) : Bool := word = some "yes" || word = some "true"

end InfoModel

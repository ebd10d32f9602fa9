import InfoModel.Constraint.Declared
import InfoModel.Datatype.Basic
import InfoModel.Name.QName
import InfoModel.Occurrence
import InfoModel.Pattern.Basic
import InfoModel.Source

/-!
# Constraints

A set of constraints holds variables and rules in the order of their declaration, each with the
source that declared it. Of two variables with one name the later one counts.
-/

namespace InfoModel

structure Let where
  name : QName
  expression : String
  source : Source
  remarks : Option String
deriving Repr, DecidableEq

/-- One part of a composite key: where its value is found, and the pattern that selects the key from
the value. -/
structure KeyField where
  target : String
  pattern : Option Pattern
  remarks : Option String
deriving Repr, DecidableEq

inductive Check where
  | allowedValues (values : List AllowedValue) (allowOther : Bool) (extensible : Extensible)
  | matches (message : Option String) (pattern : Option Pattern) (datatype : Option Datatype)
  | expect (message : Option String) (test : String)
  | index (message : Option String) (name : String) (keys : List KeyField)
  | indexHasKey (message : Option String) (name : String) (keys : List KeyField)
  | unique (message : Option String) (keys : List KeyField)
  | hasCardinality (message : Option String) (min : Option UInt32) (max : Option MaxOccurs)

inductive CheckKind where
  | allowedValues
  | matches
  | expect
  | index
  | indexHasKey
  | unique
  | hasCardinality
deriving Repr, DecidableEq

def CheckKind.text : CheckKind → String
  | .allowedValues => "allowed-values"
  | .matches => "matches"
  | .expect => "expect"
  | .index => "index"
  | .indexHasKey => "index-has-key"
  | .unique => "is-unique"
  | .hasCardinality => "has-cardinality"

def CheckKind.all : List CheckKind :=
  [.allowedValues, .matches, .expect, .index, .indexHasKey, .unique, .hasCardinality]

namespace Check

def kind : Check → CheckKind
  | .allowedValues .. => .allowedValues
  | .matches .. => .matches
  | .expect .. => .expect
  | .index .. => .index
  | .indexHasKey .. => .indexHasKey
  | .unique .. => .unique
  | .hasCardinality .. => .hasCardinality

/-- The message given when the check fails; a list of allowed values has none. -/
def message : Check → Option String
  | .allowedValues .. => none
  | .matches m .. | .expect m _ | .index m .. | .indexHasKey m .. | .unique m _
  | .hasCardinality m .. => m

def keys : Check → List KeyField
  | .index _ _ ks | .indexHasKey _ _ ks | .unique _ ks => ks
  | _ => []

end Check

/-- What all rules have alike. -/
structure RuleHead where
  id : Option String
  level : Level
  target : String
  documentation : Documentation
  source : Source
deriving Repr, DecidableEq

/-- The target of a rule that applies to what it is declared on. -/
def selfTarget : String := "."

def RuleHead.plain (source : Source) : RuleHead :=
  ⟨none, .default, selfTarget, ⟨none, none, Properties.empty, none⟩, source⟩

structure Rule where
  head : RuleHead
  check : Check

structure ConstraintSet where
  lets : List Let
  rules : List Rule

namespace ConstraintSet

def empty : ConstraintSet := ⟨[], []⟩

def isEmpty (s : ConstraintSet) : Bool := s.lets.isEmpty && s.rules.isEmpty

/-- The variable with a name; of several, the last. -/
def let? (s : ConstraintSet) (name : String) : Option Let :=
  s.lets.reverse.find? fun l => l.name.localName = name

def ofKind (s : ConstraintSet) (kind : CheckKind) : List Rule :=
  s.rules.filter fun r => r.check.kind = kind

end ConstraintSet

def listed? (values : List AllowedValue) (value : String) : Option AllowedValue :=
  values.find? fun v => v.value = value

/-- Whether a list permits a value: it is listed, or others are allowed. -/
def permits (values : List AllowedValue) (allowOther : Bool) (value : String) : Bool :=
  allowOther || (listed? values value).isSome

end InfoModel

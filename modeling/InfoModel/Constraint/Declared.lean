import InfoModel.Documentation

/-!
# Constraints as declared

A block of constraints declares variables and rules. Some rules may be declared for the value of a
flag or a field, all of them for the content of an assembly. This module holds blocks as they are
written, before anything in them is checked.
-/

namespace InfoModel

/-- How serious it is when a rule is broken, from the least to the most. -/
inductive Level where
  | debug
  | informational
  | warning
  | error
  | critical
deriving Repr, DecidableEq, Ord

namespace Level

def text : Level → String
  | .debug => "DEBUG"
  | .informational => "INFORMATIONAL"
  | .warning => "WARNING"
  | .error => "ERROR"
  | .critical => "CRITICAL"

def all : List Level := [.debug, .informational, .warning, .error, .critical]

def vocabulary : List (String × Level) := all.map fun l => (l.text, l)

def ofText? (s : String) : Option Level := all.find? fun l => l.text = s

def default : Level := .error

theorem ofText?_text (l : Level) : ofText? l.text = some l := by cases l <;> decide

end Level

/-- Who may add further values to a list of allowed values. -/
inductive Extensible where
  | model
  | external
  | none
deriving Repr, DecidableEq

namespace Extensible

def text : Extensible → String
  | .model => "model"
  | .external => "external"
  | .none => "none"

def vocabulary : List (String × Extensible) :=
  [.model, .external, .none].map fun e => (e.text, e)

def default : Extensible := .external

end Extensible

structure LetDecl where
  name : String
  expression : String
  remarks : Option String
deriving Repr, DecidableEq

structure AllowedValue where
  value : String
  deprecated : Option String
  description : Option String
deriving Repr, DecidableEq

structure KeyDecl where
  target : String
  pattern : Option String
  remarks : Option String
deriving Repr, DecidableEq

inductive ValueCheckDecl where
  | allowedValues (values : List AllowedValue) (allowOther : Option String)
      (extensible : Option Extensible)
  | matches (message pattern datatype : Option String)
  | expect (message : Option String) (test : String)
  | indexHasKey (message : Option String) (name : String) (keys : List KeyDecl)
deriving Repr, DecidableEq

/-- What a rule for the content of an assembly checks: whatever a rule for values does, and more. -/
inductive ModelCheckDecl where
  | value (check : ValueCheckDecl)
  | index (message : Option String) (name : String) (keys : List KeyDecl)
  | unique (message : Option String) (keys : List KeyDecl)
  | hasCardinality (message min max : Option String)
deriving Repr, DecidableEq

structure RuleHeadDecl where
  id : Option String
  level : Option Level
  target : Option String
  documentation : DocumentationDecl
deriving Repr, DecidableEq

structure RuleDecl (γ : Type) where
  head : RuleHeadDecl
  check : γ
deriving Repr, DecidableEq

def RuleDecl.toModel (d : RuleDecl ValueCheckDecl) : RuleDecl ModelCheckDecl :=
  ⟨d.head, .value d.check⟩

structure ConstraintDecl (γ : Type) where
  lets : List LetDecl
  rules : List (RuleDecl γ)
deriving Repr, DecidableEq

abbrev ValueConstraintDecl := ConstraintDecl ValueCheckDecl

abbrev ModelConstraintDecl := ConstraintDecl ModelCheckDecl

namespace ConstraintDecl

def empty : ConstraintDecl γ := ⟨[], []⟩

def isEmpty (d : ConstraintDecl γ) : Bool := d.lets.isEmpty && d.rules.isEmpty

/-- A block for values as a block for the content of an assembly. -/
def toModel (d : ValueConstraintDecl) : ModelConstraintDecl :=
  ⟨d.lets, d.rules.map RuleDecl.toModel⟩

end ConstraintDecl

end InfoModel

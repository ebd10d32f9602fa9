import InfoModel.Constraint.Basic

/-!
# Faults of constraints

A block is refused for the first variable or rule in it that is not valid.
-/

namespace InfoModel
open InfoModel.Text

inductive CardinalityFault where
  | notCount
  | tooLarge
  | badMax (fault : Fault)
  | minExceedsMax
deriving Repr, DecidableEq

def CardinalityFault.reason : CardinalityFault → String
  | .notCount => "min-occurs must be a non-negative integer"
  | .tooLarge => OccurrenceFault.tooLarge.reason
  | .badMax fault => fault.message
  | .minExceedsMax => OccurrenceFault.minExceedsMax.reason

/-- A refusal of a block of constraints. -/
inductive ConstraintFault where
  | invalidRegex (pattern : String)
  | unknownDatatype (name : String)
  | invalidCardinality (value : String) (cause : CardinalityFault)
  | noKeyFields (kind : CheckKind) (name : String)
  | invalidLetName (name : String)
deriving Repr, DecidableEq

def ConstraintFault.message : ConstraintFault → String
  | .invalidRegex pattern => "invalid regular expression " ++ quoted pattern ++ ": <library>"
  | .unknownDatatype name => "unrecognized data type: " ++ name
  | .invalidCardinality value cause =>
    "invalid cardinality " ++ quoted value ++ ": " ++ cause.reason
  | .noKeyFields kind name =>
    kind.text ++ " constraint '" ++ name ++ "' declares no key fields"
  | .invalidLetName name => "invalid let variable name " ++ quoted name

end InfoModel

import InfoModel.Constraint.Fault
import InfoModel.Model.Vocabulary

/-!
# Faults of modules

A module, or a part of one that is built later, is refused for the first thing in it that is not
valid. A fault names the definition that the thing stands in and the module that declares it.
-/

namespace InfoModel

/-- A refusal of a module or of a part of one. -/
inductive ModelFault where
  | unresolvedReference (kind : Kind) (reference definition owner : String)
  | duplicateDefinition (kind : Kind) (name owner : String)
  | invalidJsonKey (flag definition owner : String)
  | invalidJsonValueKeyFlag (flag definition owner : String)
  | constraint (definition owner : String) (fault : ConstraintFault)
  | basic (fault : Fault)
  | released (definition : String)
  | importCycle (locations : List String)
  | missingImport (href owner : String)
deriving Repr, DecidableEq

/-- The name under which a loader asks for modules on its own account. -/
def loaderName : String := "<loader>"

def ModelFault.message : ModelFault → String
  | .unresolvedReference kind reference definition owner =>
    "unable to resolve " ++ kind.text ++ " reference '" ++ reference ++ "' in definition '" ++
      definition ++ "' in module '" ++ owner ++ "'"
  | .duplicateDefinition kind name owner =>
    "duplicate " ++ kind.text ++ " definition '" ++ name ++ "' in module '" ++ owner ++ "'"
  | .invalidJsonKey flag definition owner =>
    "json-key flag '" ++ flag ++ "' is not a flag of '" ++ definition ++ "' in module '" ++
      owner ++ "'"
  | .invalidJsonValueKeyFlag flag definition owner =>
    "json-value-key flag '" ++ flag ++ "' is not a flag of '" ++ definition ++ "' in module '" ++
      owner ++ "'"
  | .constraint definition owner fault =>
    "constraint in '" ++ definition ++ "' in module '" ++ owner ++ "': " ++ fault.message
  | .basic fault => fault.message
  | .released definition => "module owning '" ++ definition ++ "' has been released"
  | .importCycle locations => "import cycle: " ++ " -> ".intercalate locations
  | .missingImport href owner =>
    "module '" ++ owner ++ "' imports '" ++ href ++ "', which is not available"

def orBasic (x : Except Fault α) : Except ModelFault α :=
  match x with
  | .ok a => .ok a
  | .error f => .error (.basic f)

end InfoModel

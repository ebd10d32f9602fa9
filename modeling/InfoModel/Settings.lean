import InfoModel.Fault
import InfoModel.Text.Trim

/-!
# Settings

Two switches govern how modules are built: whether every part is built at once, and whether a
definition that shadows an imported one is reported. They are set directly or by environment
variables.
-/

namespace InfoModel
open InfoModel.Text InfoModel.Unicode

/-- How modules are built. -/
structure Settings where
  eagerResolution : Bool := false
  warnOnShadowing : Bool := true
deriving Repr, DecidableEq

namespace Settings

def eagerVariable : String := "METASCHEMA_EAGER_RESOLUTION"

def warnVariable : String := "METASCHEMA_WARN_ON_SHADOWING"

/-- Reads a switch: a word for yes or no, in any case, blanks around it aside. -/
def readSwitch (name value : String) : Except Fault Bool :=
  let word := String.ofList ((trimChars value.toList).map asciiLower)
  if ["true", "yes", "1"].contains word then .ok true
  else if ["false", "no", "0"].contains word then .ok false
  else .error (.invalidSetting name value)

/-- The switch that a variable sets, or `default` where it is not set. -/
def switchOf (name : String) (value : Option String) (default : Bool) : Except Fault Bool :=
  match value with
  | some v => readSwitch name v
  | none => .ok default

def ofEnvironment (eager warn : Option String) : Except Fault Settings := do
  let eagerResolution ← switchOf eagerVariable eager false
  let warnOnShadowing ← switchOf warnVariable warn true
  return ⟨eagerResolution, warnOnShadowing⟩

end Settings

end InfoModel

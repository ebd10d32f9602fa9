import InfoModel.Text.Digits

/-!
# Events

What happens while modules are built is noticed as events: parts that are finished, and declarations
that take the place of others. An event has a severity, a message and named fields, all in one
wording. Main functions: `Event.message`, `Event.fields`.
-/

namespace InfoModel
open InfoModel.Text

inductive Severity where
  | debug
  | warn
deriving Repr, DecidableEq

def Severity.text : Severity → String
  | .debug => "DEBUG"
  | .warn => "WARN"

/-- Something that is noticed. -/
inductive Event where
  | readSettings (eager warn : Bool)
  | replacedDatatype (datatype : String)
  | builtModule (owner : String) (assemblies fields flags imports : Nat)
  | resolvedModule (owner : String)
  | loadedModule (owner location : String)
  | builtFlags (definition : String) (flags : Nat)
  | builtModel (definition : String) (instances : Nat)
  | builtAlternatives (definition : String) (alternatives : Nat)
  | compiledValueRules (owner context : String) (lets rules : Nat)
  | compiledModelRules (owner : String) (lets rules : Nat)
  | shadowed (kind name owner : String)
  | repeatedFlag (flag definition : String)
  | repeatedInstance (name definition : String)
  | repeatedGroup (groupAs definition : String)
  | repeatedAlternative (name definition : String)
  | flagTarget (owner target : String)
deriving Repr, DecidableEq

namespace Event

/-- How much the event matters: a declaration that takes the place of another is a warning. -/
def severity : Event → Severity
  | .shadowed .. | .repeatedFlag .. | .repeatedInstance .. | .repeatedGroup ..
  | .repeatedAlternative .. | .flagTarget .. => .warn
  | _ => .debug

def message : Event → String
  | .readSettings .. => "loaded model config from environment"
  | .replacedDatatype .. => "replaced registered data type adapter"
  | .builtModule .. => "built module"
  | .resolvedModule .. => "resolved module"
  | .loadedModule .. => "loaded module"
  | .builtFlags .. => "built flag container"
  | .builtModel .. => "built model container"
  | .builtAlternatives .. => "built choice group container"
  | .compiledValueRules .. => "compiled value constraints"
  | .compiledModelRules .. => "compiled model constraints"
  | .shadowed .. => "definition shadows an imported definition"
  | .repeatedFlag .. => "duplicate flag name; last declaration wins"
  | .repeatedInstance .. => "duplicate model instance name; last declaration wins"
  | .repeatedGroup .. => "duplicate choice group name; last declaration wins"
  | .repeatedAlternative .. => "duplicate choice group alternative; last declaration wins"
  | .flagTarget .. => "flag constraint declares a target; it applies to the flag itself"

def fields : Event → List (String × String)
  | .readSettings eager warn =>
    [("eager_resolution", boolText eager), ("warn_on_shadowing", boolText warn)]
  | .replacedDatatype datatype => [("datatype", datatype)]
  | .builtModule owner assemblies fields flags imports =>
    [("module", owner), ("assemblies", natText assemblies), ("fields", natText fields),
      ("flags", natText flags), ("imports", natText imports)]
  | .resolvedModule owner => [("module", owner)]
  | .loadedModule owner location => [("module", owner), ("location", location)]
  | .builtFlags definition flags => [("definition", definition), ("flags", natText flags)]
  | .builtModel definition instances =>
    [("definition", definition), ("instances", natText instances)]
  | .builtAlternatives definition alternatives =>
    [("definition", definition), ("alternatives", natText alternatives)]
  | .compiledValueRules owner context lets rules =>
    [("module", owner), ("context", context), ("lets", natText lets), ("rules", natText rules)]
  | .compiledModelRules owner lets rules =>
    [("module", owner), ("lets", natText lets), ("rules", natText rules)]
  | .shadowed kind name owner => [("kind", kind), ("name", name), ("module", owner)]
  | .repeatedFlag flag definition => [("flag", flag), ("definition", definition)]
  | .repeatedInstance name definition => [("instance", name), ("definition", definition)]
  | .repeatedGroup groupAs definition => [("group_as", groupAs), ("definition", definition)]
  | .repeatedAlternative name definition => [("instance", name), ("definition", definition)]
  | .flagTarget owner target => [("module", owner), ("target", target)]

end Event

end InfoModel

import InfoModel.Constraint.Fault
import InfoModel.Datatype.Registry
import InfoModel.Traced

/-!
# Compiling constraints

A block is compiled as a whole: first its variables and then its rules, each in order, up to the
first that is not valid. The rules of a flag always apply to the flag itself; a flag's rule that
declares another target is noticed.
-/

namespace InfoModel
open InfoModel.Text

/-- What compiling a block gives: a set or a fault, and what is noticed. -/
abbrev Compiled (α : Type) := Traced Event ConstraintFault α

/-- Compiles a variable, whose name must be a non-colonized name, blanks around it aside. -/
def Let.compile (source : Source) (d : LetDecl) : Except ConstraintFault Let :=
  match QName.unqualified (trim d.name) with
  | .ok name => .ok ⟨name, d.expression, source, d.remarks⟩
  | .error _ => .error (.invalidLetName d.name)

def compilePattern (pattern : Option String) : Except ConstraintFault (Option Pattern) :=
  match pattern with
  | none => .ok none
  | some text =>
    match Pattern.compile text with
    | some p => .ok (some p)
    | none => .error (.invalidRegex text)

def KeyField.compile (d : KeyDecl) : Except ConstraintFault KeyField :=
  (compilePattern d.pattern).map fun p => ⟨d.target, p, d.remarks⟩

/-- Compiles the parts of a key, of which there must be one; `name` is what the rule is called. -/
def compileKeys (kind : CheckKind) (name : String) (keys : List KeyDecl) :
    Except ConstraintFault (List KeyField) :=
  if keys.isEmpty then .error (.noKeyFields kind name) else keys.mapM KeyField.compile

def compileMin (text : String) : Except ConstraintFault UInt32 :=
  match readCount (trimChars text.toList) with
  | .ok n => .ok n
  | .error .tooLarge => .error (.invalidCardinality text .tooLarge)
  | .error _ => .error (.invalidCardinality text .notCount)

def compileMax (text : String) : Except ConstraintFault MaxOccurs :=
  match MaxOccurs.parse text with
  | .ok m => .ok m
  | .error e => .error (.invalidCardinality text (.badMax e))

/-- The bounds of a cardinality, of which the lower must not exceed the upper. -/
def compileBounds (min max : Option String) :
    Except ConstraintFault (Option UInt32 × Option MaxOccurs) := do
  let lo ← min.mapM compileMin
  let hi ← max.mapM compileMax
  match lo, hi with
  | some m, some (.bounded n) =>
    if n < m then
      .error (.invalidCardinality (countText m ++ ".." ++ countText n) .minExceedsMax)
    else .ok (lo, hi)
  | _, _ => .ok (lo, hi)

def compileDatatype (r : Registry) (name : Option String) :
    Except ConstraintFault (Option Datatype) :=
  match name with
  | none => .ok none
  | some n =>
    match r.lookup n with
    | some d => .ok (some d)
    | none => .error (.unknownDatatype n)

def meansYes (word : Option String) : Bool :=
  match word with
  | some w => trim w = "yes" || trim w = "true"
  | none => false

def compileValueCheck (r : Registry) : ValueCheckDecl → Except ConstraintFault Check
  | .allowedValues values allowOther extensible =>
    .ok (.allowedValues values (meansYes allowOther) (extensible.getD .default))
  | .matches message pattern datatype => do
    let p ← compilePattern pattern
    let d ← compileDatatype r datatype
    return .matches message p d
  | .expect message test => .ok (.expect message test)
  | .indexHasKey message name keys =>
    (compileKeys .indexHasKey name keys).map fun ks => .indexHasKey message name ks

/-- What a rule for uniqueness is called: its id, or else its target. -/
def uniqueName (head : RuleHeadDecl) : String := (head.id <|> head.target).getD selfTarget

def compileModelCheck (r : Registry) (head : RuleHeadDecl) :
    ModelCheckDecl → Except ConstraintFault Check
  | .value check => compileValueCheck r check
  | .index message name keys =>
    (compileKeys .index name keys).map fun ks => .index message name ks
  | .unique message keys =>
    (compileKeys .unique (uniqueName head) keys).map fun ks => .unique message ks
  | .hasCardinality message min max =>
    (compileBounds min max).map fun (lo, hi) => .hasCardinality message lo hi

def compileHead (source : Source) (d : RuleHeadDecl) : RuleHead :=
  ⟨d.id, d.level.getD .default, d.target.getD selfTarget, d.documentation.toDocumentation, source⟩

/-- The head of a rule of a flag, whose target is the flag itself; another one is noticed. -/
def compileFlagHead (source : Source) (d : RuleHeadDecl) : Compiled RuleHead :=
  let head := { compileHead source d with target := selfTarget }
  match d.target with
  | some target =>
    if target = selfTarget then .value head
    else ⟨[.flagTarget source.shortName target], .ok head⟩
  | none => .value head

inductive ValueContext where
  | flag
  | field
deriving Repr, DecidableEq

def ValueContext.text : ValueContext → String
  | .flag => "Flag"
  | .field => "Field"

def compileValueRule (r : Registry) (source : Source) (context : ValueContext)
    (d : RuleDecl ValueCheckDecl) : Compiled Rule := do
  let check ← .ofExcept (compileValueCheck r d.check)
  let head ← match context with
    | .flag => compileFlagHead source d.head
    | .field => .value (compileHead source d.head)
  return ⟨head, check⟩

def compileModelRule (r : Registry) (source : Source) (d : RuleDecl ModelCheckDecl) :
    Compiled Rule := do
  let check ← .ofExcept (compileModelCheck r d.head d.check)
  return ⟨compileHead source d.head, check⟩

def compileLets (source : Source) (lets : List LetDecl) : Compiled (List Let) :=
  .ofExcept (lets.mapM (Let.compile source))

def compileValueConstraints (r : Registry) (source : Source) (context : ValueContext)
    (d : ValueConstraintDecl) : Compiled ConstraintSet := do
  let lets ← compileLets source d.lets
  let rules ← d.rules.mapM (compileValueRule r source context)
  .step (.compiledValueRules source.shortName context.text lets.length rules.length)
  return ⟨lets, rules⟩

def compileModelConstraints (r : Registry) (source : Source) (d : ModelConstraintDecl) :
    Compiled ConstraintSet := do
  let lets ← compileLets source d.lets
  let rules ← d.rules.mapM (compileModelRule r source)
  .step (.compiledModelRules source.shortName lets.length rules.length)
  return ⟨lets, rules⟩

end InfoModel

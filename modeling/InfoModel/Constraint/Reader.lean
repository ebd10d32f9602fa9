import InfoModel.Constraint.Declared

/-!
# Reading declared constraints

Blocks of constraints are read from records. The field `type` of a rule names what it checks.
-/

namespace InfoModel

def LetDecl.ofTree? (t : Tree) : Option LetDecl := do
  return ⟨← t.field "var" Tree.text?, ← t.field "expression" Tree.text?, ← t.optionalText "remarks"⟩

def AllowedValue.ofTree? (t : Tree) : Option AllowedValue := do
  return ⟨← t.field "value" Tree.scalarText?, ← t.optionalScalar "deprecated",
    ← t.optionalText "description"⟩

def KeyDecl.ofTree? (t : Tree) : Option KeyDecl := do
  return ⟨← t.field "target" Tree.text?, ← t.optionalText "pattern", ← t.optionalText "remarks"⟩

def RuleHeadDecl.ofTree? (t : Tree) : Option RuleHeadDecl := do
  return ⟨← t.optionalText "id", ← t.optional "level" (Tree.meaning? Level.vocabulary),
    ← t.optionalText "target", ← DocumentationDecl.ofTree? t⟩

/-- The type of a record that may be one of several. -/
def Tree.typeName? (t : Tree) : Option String := t.field "type" Tree.text?

def ValueCheckDecl.ofTree? (t : Tree) : Option ValueCheckDecl := do
  match ← t.typeName? with
  | "allowed-values" =>
    return .allowedValues (← t.items "enums" AllowedValue.ofTree?)
      (← t.optionalScalar "allow-other")
      (← t.optional "extensible" (Tree.meaning? Extensible.vocabulary))
  | "matches" =>
    return .matches (← t.optionalText "message") (← t.optionalText "regex")
      (← t.optionalText "datatype")
  | "expect" => return .expect (← t.optionalText "message") (← t.field "test" Tree.text?)
  | "index-has-key" =>
    return .indexHasKey (← t.optionalText "message") (← t.field "name" Tree.text?)
      (← t.items "key-fields" KeyDecl.ofTree?)
  | _ => none

def ModelCheckDecl.ofTree? (t : Tree) : Option ModelCheckDecl := do
  match ← t.typeName? with
  | "index" =>
    return .index (← t.optionalText "message") (← t.field "name" Tree.text?)
      (← t.items "key-fields" KeyDecl.ofTree?)
  | "is-unique" =>
    return .unique (← t.optionalText "message") (← t.items "key-fields" KeyDecl.ofTree?)
  | "has-cardinality" =>
    return .hasCardinality (← t.optionalText "message") (← t.optionalScalar "min-occurs")
      (← t.optionalScalar "max-occurs")
  | _ => return .value (← ValueCheckDecl.ofTree? t)

/-- Reads a rule whose check is read by `check`. -/
def RuleDecl.ofTree? (check : Tree → Option γ) (t : Tree) : Option (RuleDecl γ) := do
  return ⟨← RuleHeadDecl.ofTree? t, ← check t⟩

def ConstraintDecl.ofTree? (check : Tree → Option γ) (t : Tree) : Option (ConstraintDecl γ) := do
  if t.isRecord then
    return ⟨← t.items "lets" LetDecl.ofTree?, ← t.items "rules" (RuleDecl.ofTree? check)⟩
  else none

def ValueConstraintDecl.ofTree? : Tree → Option ValueConstraintDecl :=
  ConstraintDecl.ofTree? ValueCheckDecl.ofTree?

def ModelConstraintDecl.ofTree? : Tree → Option ModelConstraintDecl :=
  ConstraintDecl.ofTree? ModelCheckDecl.ofTree?

end InfoModel

import InfoModel.Constraint.Reader
import InfoModel.Model.Declared

/-!
# Reading declared modules

Modules are read from records. The field `type` of a definition, a flag or a child of a model says
which kind it is; every place admits its own kinds. A record that does not fit, at any depth, makes
the whole module unreadable.
-/

namespace InfoModel
open InfoModel.Tree (count? text?)

/-- Reads what all definitions declare alike; `useIndex` reads the index of the name in use. -/
def DefinitionHeadDecl.ofTree? (useIndex : Tree → Option (Option UInt32)) (t : Tree) :
    Option DefinitionHeadDecl := do
  return ⟨← t.field "name" text?, ← t.optional "scope" (Tree.meaning? Scope.vocabulary),
    ← t.optional "index" count?, ← t.optionalText "use-name", ← useIndex t,
    ← DocumentationDecl.ofTree? t⟩

def Tree.useIndex (t : Tree) : Option (Option UInt32) := t.optional "use-index" count?

def ValueDecl.ofTree? (t : Tree) : Option ValueDecl := do
  return ⟨← t.optionalText "as-type", ← t.optionalScalar "default"⟩

def ReferenceDecl.ofTree? (default : Tree → Option (Option String)) (t : Tree) :
    Option ReferenceDecl := do
  return ⟨← t.field "ref" text?, ← t.optionalText "use-name", ← default t,
    ← DocumentationDecl.ofTree? t⟩

def Tree.ownDefault (t : Tree) : Option (Option String) := t.optionalScalar "default"

/-- No default, whatever the record holds. -/
def Tree.withoutDefault (_ : Tree) : Option (Option String) := some none

def FlagDecl.ofTree? (t : Tree) : Option FlagDecl := do
  return ⟨← DefinitionHeadDecl.ofTree? (fun _ => some none) t, ← ValueDecl.ofTree? t,
    ← t.optional "constraint" ValueConstraintDecl.ofTree?⟩

def FlagChildDecl.ofTree? (t : Tree) : Option FlagChildDecl := do
  let required ← t.optionalScalar "required"
  match ← t.typeName? with
  | "flag" => return ⟨required, .reference (← ReferenceDecl.ofTree? Tree.ownDefault t)⟩
  | "define-flag" => return ⟨required, .inline (← FlagDecl.ofTree? t)⟩
  | _ => none

def FieldDecl.ofTree? (t : Tree) : Option FieldDecl := do
  return ⟨← DefinitionHeadDecl.ofTree? Tree.useIndex t, ← ValueDecl.ofTree? t,
    ← t.optionalText "json-key", ← t.optionalText "json-value-key",
    ← t.optionalText "json-value-key-flag", ← t.items "flags" FlagChildDecl.ofTree?,
    ← t.optional "constraint" ValueConstraintDecl.ofTree?⟩

def GroupAsDecl.ofTree? (t : Tree) : Option GroupAsDecl := do
  return ⟨← t.field "name" text?, ← t.optional "in-json" (Tree.meaning? JsonGrouping.vocabulary),
    ← t.optional "in-xml" (Tree.meaning? XmlGrouping.vocabulary)⟩

def UseDecl.ofTree? (t : Tree) : Option UseDecl := do
  return ⟨← t.optional "min-occurs" count?, ← t.optionalScalar "max-occurs",
    ← t.optional "group-as" GroupAsDecl.ofTree?⟩

def GroupHeadDecl.ofTree? (t : Tree) : Option GroupHeadDecl := do
  return ⟨← t.optional "min-occurs" count?, ← t.optionalScalar "max-occurs",
    ← t.field "group-as" GroupAsDecl.ofTree?, ← t.optionalText "discriminator",
    ← t.optionalText "json-key", ← t.optionalText "remarks"⟩

/-- What `read` makes of the items of the list under a key that may be absent, each of which is
smaller than the record. -/
def Tree.itemsBelow (t : Tree) (key : String)
    (read : (u : Tree) → sizeOf u < sizeOf t → Option α) : Option (List α) :=
  match h : t.get? key with
  | none => some []
  | some (.list ts) => ts.attach.mapM fun ⟨u, hu⟩ =>
      read u (Nat.lt_trans (Tree.sizeOf_item_lt hu) (Tree.sizeOf_get?_lt h))
  | some _ => none

/-- As `itemsBelow`, but the list may also be null. -/
def Tree.optionalItemsBelow (t : Tree) (key : String)
    (read : (u : Tree) → sizeOf u < sizeOf t → Option α) : Option (List α) :=
  match t.get? key with
  | some .null => some []
  | _ => t.itemsBelow key read

mutual

def AssemblyDecl.ofTree? (t : Tree) : Option AssemblyDecl := do
  return ⟨← DefinitionHeadDecl.ofTree? Tree.useIndex t, ← t.optionalText "root-name",
    ← t.optional "root-index" count?, ← t.optionalText "json-key",
    ← t.items "flags" FlagChildDecl.ofTree?,
    ← t.optionalItemsBelow "model" fun u _ => ModelChildDecl.ofTree? u,
    ← t.optional "constraint" ModelConstraintDecl.ofTree?⟩
termination_by (sizeOf t, 0)

def NamedChildDecl.ofTree? (t : Tree) : Option NamedChildDecl := do
  let use ← UseDecl.ofTree? t
  match ← t.typeName? with
  | "assembly" =>
    return .assembly use (.reference (← ReferenceDecl.ofTree? Tree.withoutDefault t))
  | "define-assembly" => return .assembly use (.inline (← AssemblyDecl.ofTree? t))
  | "field" =>
    return .field use (← t.optional "in-xml" (Tree.meaning? XmlWrapping.vocabulary))
      (.reference (← ReferenceDecl.ofTree? Tree.ownDefault t))
  | "define-field" =>
    return .field use (← t.optional "in-xml" (Tree.meaning? XmlWrapping.vocabulary))
      (.inline (← FieldDecl.ofTree? t))
  | _ => none
termination_by (sizeOf t, 1)

def ModelChildDecl.ofTree? (t : Tree) : Option ModelChildDecl := do
  match ← t.typeName? with
  | "choice" => return .choice (← t.itemsBelow "choices" fun u _ => NamedChildDecl.ofTree? u)
  | "choice-group" =>
    return .group (← GroupHeadDecl.ofTree? t)
      (← t.itemsBelow "choices" fun u _ => AlternativeDecl.ofTree? u)
  | _ => return .named (← NamedChildDecl.ofTree? t)
termination_by (sizeOf t, 2)

def AlternativeDecl.ofTree? (t : Tree) : Option AlternativeDecl := do
  let discriminator ← t.optionalText "discriminator-value"
  match ← t.typeName? with
  | "assembly" =>
    return .assembly discriminator (.reference (← ReferenceDecl.ofTree? Tree.withoutDefault t))
  | "define-assembly" => return .assembly discriminator (.inline (← AssemblyDecl.ofTree? t))
  | "field" =>
    return .field discriminator (.reference (← ReferenceDecl.ofTree? Tree.withoutDefault t))
  | "define-field" => return .field discriminator (.inline (← FieldDecl.ofTree? t))
  | _ => none
termination_by (sizeOf t, 1)

end

def DefinitionDecl.ofTree? (t : Tree) : Option DefinitionDecl := do
  match ← t.typeName? with
  | "define-assembly" => return ⟨.assembly, ← AssemblyDecl.ofTree? t⟩
  | "define-field" => return ⟨.field, ← FieldDecl.ofTree? t⟩
  | "define-flag" => return ⟨.flag, ← FlagDecl.ofTree? t⟩
  | _ => none

def BindingDecl.ofTree? (t : Tree) : Option BindingDecl := do
  return ⟨← t.field "prefix" text?, ← t.field "uri" text?⟩

def ModuleDecl.ofTree? (t : Tree) : Option ModuleDecl := do
  return ⟨← t.field "short-name" text?, ← t.optionalText "schema-name",
    ← t.optionalScalar "schema-version", ← t.optionalText "namespace",
    ← t.optionalText "json-base-uri", ← t.optionalText "remarks",
    ← t.items "imports" fun u => u.field "href" text?,
    ← t.items "namespace-bindings" BindingDecl.ofTree?,
    ← t.items "definitions" DefinitionDecl.ofTree?⟩

end InfoModel

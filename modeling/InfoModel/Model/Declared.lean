import InfoModel.Constraint.Declared
import InfoModel.Model.Vocabulary

/-!
# Modules as declared

A module declares assemblies, fields and flags. An assembly has flags and a model: an ordered list
of fields and assemblies, of choices between such, and of groups of alternatives. Flags, fields and
assemblies are declared by reference to a definition or with a definition of their own in place.
This module holds declarations as they are written, before anything in them is resolved.
-/

namespace InfoModel

/-- What all definitions declare alike; flags have no index for the name in use. -/
structure DefinitionHeadDecl where
  name : String
  scope : Option Scope
  index : Option UInt32
  useName : Option String
  useIndex : Option UInt32
  documentation : DocumentationDecl
deriving Repr, DecidableEq

structure ValueDecl where
  datatype : Option String
  default : Option String
deriving Repr, DecidableEq

/-- A reference to a definition. The default, if there is one, takes the place of the definition's;
only references to fields of a model and to flags declare one. -/
structure ReferenceDecl where
  reference : String
  useName : Option String
  default : Option String
  documentation : DocumentationDecl
deriving Repr, DecidableEq

/-- How an instance declares its definition. -/
inductive OriginDecl (δ : Type) where
  | reference (reference : ReferenceDecl)
  | inline (definition : δ)
deriving Repr, DecidableEq

def OriginDecl.form : OriginDecl δ → Form
  | .reference _ => .reference
  | .inline _ => .inline

structure FlagDecl where
  head : DefinitionHeadDecl
  value : ValueDecl
  constraint : Option ValueConstraintDecl
deriving Repr, DecidableEq

structure FlagChildDecl where
  required : Option String
  origin : OriginDecl FlagDecl
deriving Repr, DecidableEq

structure FieldDecl where
  head : DefinitionHeadDecl
  value : ValueDecl
  jsonKey : Option String
  jsonValueKey : Option String
  jsonValueKeyFlag : Option String
  flags : List FlagChildDecl
  constraint : Option ValueConstraintDecl
deriving Repr, DecidableEq

structure GroupAsDecl where
  name : String
  inJson : Option JsonGrouping
  inXml : Option XmlGrouping
deriving Repr, DecidableEq

/-- How often an instance occurs and how it is grouped. -/
structure UseDecl where
  minOccurs : Option UInt32
  maxOccurs : Option String
  groupAs : Option GroupAsDecl
deriving Repr, DecidableEq

structure GroupHeadDecl where
  minOccurs : Option UInt32
  maxOccurs : Option String
  groupAs : GroupAsDecl
  discriminator : Option String
  jsonKey : Option String
  remarks : Option String
deriving Repr, DecidableEq

mutual

/-- The definition of an assembly. A model that is left out is one without children. -/
structure AssemblyDecl where
  head : DefinitionHeadDecl
  rootName : Option String
  rootIndex : Option UInt32
  jsonKey : Option String
  flags : List FlagChildDecl
  model : List ModelChildDecl
  constraint : Option ModelConstraintDecl

inductive NamedChildDecl where
  | assembly (use : UseDecl) (origin : OriginDecl AssemblyDecl)
  | field (use : UseDecl) (inXml : Option XmlWrapping) (origin : OriginDecl FieldDecl)

inductive ModelChildDecl where
  | named (child : NamedChildDecl)
  | choice (children : List NamedChildDecl)
  | group (head : GroupHeadDecl) (alternatives : List AlternativeDecl)

inductive AlternativeDecl where
  | assembly (discriminator : Option String) (origin : OriginDecl AssemblyDecl)
  | field (discriminator : Option String) (origin : OriginDecl FieldDecl)

end

/-- What the definitions of a kind are declared as. -/
@[reducible] def Kind.Decl : Kind → Type
  | .assembly => AssemblyDecl
  | .field => FieldDecl
  | .flag => FlagDecl

structure DefinitionDecl where
  kind : Kind
  definition : kind.Decl

structure BindingDecl where
  head : String
  uri : String
deriving Repr, DecidableEq

/-- A module: what it is, which modules it imports, and what it defines. -/
structure ModuleDecl where
  shortName : String
  schemaName : Option String
  schemaVersion : Option String
  space : Option String
  jsonBaseUri : Option String
  remarks : Option String
  imports : List String
  bindings : List BindingDecl
  definitions : List DefinitionDecl

end InfoModel

import InfoModel.Datatype.Registry
import InfoModel.Model.Declared
import InfoModel.Source

/-!
# Definitions

A definition has a name in the namespace of its module and, if it declares one, another name in use.
Names, datatypes and defaults are checked when a definition is prepared; its flags, its model and
its constraints stay as declared until they are asked for.
-/

namespace InfoModel

/-- What all definitions have alike. Only a global definition has a position: its place among the
global definitions of its kind. -/
structure DefinitionHead where
  name : QName
  effectiveName : QName
  scope : Scope
  index : Option UInt32
  useIndex : Option UInt32
  position : Option Nat
  documentation : Documentation
  source : Source

def DefinitionHead.prepare (source : Source) (position : Option Nat) (d : DefinitionHeadDecl) :
    Except Fault DefinitionHead := do
  let name ← QName.make source.context.defaultSpace d.name
  let effectiveName ← match d.useName with
    | some useName => QName.make source.context.defaultSpace useName
    | none => .ok name
  return ⟨name, effectiveName, d.scope.getD .default, d.index, d.useIndex, position,
    d.documentation.toDocumentation, source⟩

/-- The datatype of a value, and the value that stands for a missing one. -/
structure ValueType where
  datatype : Datatype
  default : Option Value

/-- The datatype must be registered, and the default must be one of its values. -/
def ValueType.prepare (r : Registry) (d : ValueDecl) : Except Fault ValueType := do
  let datatype ← r.resolveOrDefault d.datatype
  let default ← d.default.mapM datatype.parse
  return ⟨datatype, default⟩

structure FlagDefinition where
  head : DefinitionHead
  value : ValueType
  decl : FlagDecl

structure FieldDefinition where
  head : DefinitionHead
  value : ValueType
  decl : FieldDecl

structure AssemblyDefinition where
  head : DefinitionHead
  rootName : Option QName
  decl : AssemblyDecl

/-- Whether a document may have the assembly as its root. -/
def AssemblyDefinition.isRoot (d : AssemblyDefinition) : Bool :=
  d.rootName.isSome || d.decl.rootIndex.isSome

def FlagDefinition.prepare (r : Registry) (source : Source) (position : Option Nat)
    (d : FlagDecl) : Except Fault FlagDefinition := do
  let head ← DefinitionHead.prepare source position d.head
  let value ← ValueType.prepare r d.value
  return ⟨head, value, d⟩

def FieldDefinition.prepare (r : Registry) (source : Source) (position : Option Nat)
    (d : FieldDecl) : Except Fault FieldDefinition := do
  let head ← DefinitionHead.prepare source position d.head
  let value ← ValueType.prepare r d.value
  return ⟨head, value, d⟩

def AssemblyDefinition.prepare (source : Source) (position : Option Nat) (d : AssemblyDecl) :
    Except Fault AssemblyDefinition := do
  let head ← DefinitionHead.prepare source position d.head
  let rootName ← d.rootName.mapM (QName.make source.context.defaultSpace)
  return ⟨head, rootName, d⟩

namespace Kind

@[reducible] def Definition : Kind → Type
  | .assembly => AssemblyDefinition
  | .field => FieldDefinition
  | .flag => FlagDefinition

def head : (k : Kind) → k.Definition → DefinitionHead
  | .assembly, d => d.head
  | .field, d => d.head
  | .flag, d => d.head

def decl : (k : Kind) → k.Definition → k.Decl
  | .assembly, d => d.decl
  | .field, d => d.decl
  | .flag, d => d.decl

def prepare (r : Registry) (source : Source) (position : Option Nat) :
    (k : Kind) → k.Decl → Except Fault k.Definition
  | .assembly, d => AssemblyDefinition.prepare source position d
  | .field, d => FieldDefinition.prepare r source position d
  | .flag, d => FlagDefinition.prepare r source position d

theorem decl_of_prepare {r : Registry} {source : Source} {position : Option Nat} {k : Kind}
    {d : k.Decl} {definition : k.Definition} (h : k.prepare r source position d = .ok definition) :
    k.decl definition = d := by
  cases k <;>
    simp only [prepare, AssemblyDefinition.prepare, FieldDefinition.prepare,
      FlagDefinition.prepare, bind, Except.bind, pure, Except.pure] at h <;>
    split at h <;> try contradiction
  all_goals
    split at h <;> try contradiction
    cases h
    rfl

end Kind

end InfoModel

import InfoModel.Collection.NamedMap
import InfoModel.Model.Definition
import InfoModel.Model.Fault
import InfoModel.Settings
import InfoModel.Uri.Parser

/-!
# Modules

A module holds its global definitions, kind by kind in the order of their declaration, and the
modules it imports. Imports of a module are modules that were put together before it, so they never
lead back to it. Main function: `Module.assemble`.
-/

namespace InfoModel

/-- The global definitions of a module, by kind and name. -/
structure Definitions where
  assemblies : NamedMap QName AssemblyDefinition
  fields : NamedMap QName FieldDefinition
  flags : NamedMap QName FlagDefinition

namespace Definitions

def empty : Definitions := ⟨.empty, .empty, .empty⟩

def ofKind (ds : Definitions) : (k : Kind) → NamedMap QName k.Definition
  | .assembly => ds.assemblies
  | .field => ds.fields
  | .flag => ds.flags

def put (ds : Definitions) : (k : Kind) → k.Definition → Definitions
  | .assembly, d => { ds with assemblies := ds.assemblies.insert d.head.name d }
  | .field, d => { ds with fields := ds.fields.insert d.head.name d }
  | .flag, d => { ds with flags := ds.flags.insert d.head.name d }

/-- Adds a declared definition, whose name must be new among those of its kind. -/
def declare (r : Registry) (source : Source) (ds : Definitions) (d : DefinitionDecl) :
    Except ModelFault Definitions := do
  let table := ds.ofKind d.kind
  let definition ← orBasic (d.kind.prepare r source (some table.size) d.definition)
  let name := (d.kind.head definition).name
  if table.contains name then
    .error (.duplicateDefinition d.kind name.text source.shortName)
  else .ok (ds.put d.kind definition)

end Definitions

/-- What all modules of a family are built with. -/
structure Setup where
  settings : Settings
  registry : Registry

/-- What a module is apart from its imports. The number `id` tells it from every other module. -/
structure ModuleInfo where
  id : Nat
  schemaName : Option String
  schemaVersion : Option String
  jsonBaseUri : Option Uri
  remarks : Option String
  source : Source
  setup : Setup
  definitions : Definitions

/-- A module with the modules it imports, in order. -/
structure Module where
  info : ModuleInfo
  imports : List Module

namespace Module

def id (m : Module) : Nat := m.info.id

def shortName (m : Module) : String := m.info.source.shortName

def space (m : Module) : Option String := m.info.source.context.defaultSpace

def definitions (m : Module) (k : Kind) : NamedMap QName k.Definition :=
  m.info.definitions.ofKind k

def import? (m : Module) (shortName : String) : Option Module :=
  m.imports.find? fun i => i.shortName = shortName

/-- Reads a reference as it stands in the module. -/
def referenceName (m : Module) (reference : String) : Except ModelFault QName :=
  orBasic (m.info.source.readName reference)

def readBaseUri (address : Option String) : Except ModelFault (Option Uri) :=
  match address with
  | none => .ok none
  | some text =>
    match Uri.parse text with
    | some uri => .ok (some uri)
    | none => .error (.basic (.invalidUri text))

def sourceOf (d : ModuleDecl) (location : Option Uri) : Source :=
  ⟨d.shortName, location,
    ⟨location, d.space, Bindings.ofList (d.bindings.map fun b => (b.head, b.uri))⟩⟩

/-- The module declared by `d` at `location`, with imports that are modules already. Its definitions
are prepared in order, up to the first that is not valid or repeats a name. -/
def assemble (setup : Setup) (id : Nat) (d : ModuleDecl) (location : Option Uri)
    (imports : List Module) : Except ModelFault Module := do
  let jsonBaseUri ← readBaseUri d.jsonBaseUri
  let source := sourceOf d location
  let definitions ← d.definitions.foldlM (Definitions.declare setup.registry source) .empty
  return ⟨⟨id, d.schemaName, d.schemaVersion, jsonBaseUri, d.remarks, source, setup, definitions⟩,
    imports⟩

end Module

end InfoModel

import InfoModel.Proofs.Building.Declared
import InfoModel.Proofs.Building.Revision

/-!
# Outlines

The outline of a module shows as much of each definition as an instance of it reads: its head and
its value, but none of its flags, no model, no constraints, and nothing about its keys in JSON.
Modules with the same outline give parts with the same outline. Main statements:
`Module.map_outline_assemble`, `Placed.outlines_model`, `Placed.outlines_assemblyFlags`,
`Placed.outlines_fieldFlags`.
-/

namespace InfoModel

def FlagDecl.outline (d : FlagDecl) : FlagDecl := { d with constraint := none }

def FieldDecl.outline (d : FieldDecl) : FieldDecl :=
  { d with jsonKey := none, jsonValueKeyFlag := none, flags := [], constraint := none }

def AssemblyDecl.outline (d : AssemblyDecl) : AssemblyDecl :=
  { d with jsonKey := none, flags := [], model := [], constraint := none }

namespace Kind

def outlineDecl : (k : Kind) → k.Decl → k.Decl
  | .assembly, d => d.outline
  | .field, d => d.outline
  | .flag, d => d.outline

def outline : (k : Kind) → k.Definition → k.Definition
  | .assembly, d => { d with decl := d.decl.outline }
  | .field, d => { d with decl := d.decl.outline }
  | .flag, d => { d with decl := d.decl.outline }

theorem head_outline (k : Kind) (d : k.Definition) : k.head (k.outline d) = k.head d := by
  cases k <;> rfl

/-- A definition is prepared without a look at what its outline leaves out. -/
theorem prepare_outline (r : Registry) (source : Source) (position : Option Nat) (k : Kind)
    (d : k.Decl) :
    k.prepare r source position (k.outlineDecl d) =
      (k.prepare r source position d).map k.outline := by
  cases k with
  | assembly =>
    show AssemblyDefinition.prepare source position d.outline =
      (AssemblyDefinition.prepare source position d).map _
    unfold AssemblyDefinition.prepare AssemblyDecl.outline
    dsimp only
    cases DefinitionHead.prepare source position d.head with
    | error e => rfl
    | ok head =>
      dsimp only [bind, Except.bind]
      cases d.rootName.mapM (QName.make source.context.defaultSpace) with
      | error e => rfl
      | ok root => rfl
  | field =>
    show FieldDefinition.prepare r source position d.outline =
      (FieldDefinition.prepare r source position d).map _
    unfold FieldDefinition.prepare FieldDecl.outline
    dsimp only
    cases DefinitionHead.prepare source position d.head with
    | error e => rfl
    | ok head =>
      cases ValueType.prepare r d.value with
      | error e => rfl
      | ok value => rfl
  | flag =>
    show FlagDefinition.prepare r source position d.outline =
      (FlagDefinition.prepare r source position d).map _
    unfold FlagDefinition.prepare FlagDecl.outline
    dsimp only
    cases DefinitionHead.prepare source position d.head with
    | error e => rfl
    | ok head =>
      cases ValueType.prepare r d.value with
      | error e => rfl
      | ok value => rfl

end Kind

namespace Definitions

def outline (ds : Definitions) : Definitions :=
  ⟨ds.assemblies.mapValues (Kind.outline .assembly), ds.fields.mapValues (Kind.outline .field),
    ds.flags.mapValues (Kind.outline .flag)⟩

theorem ofKind_outline (ds : Definitions) (k : Kind) :
    ds.outline.ofKind k = (ds.ofKind k).mapValues k.outline := by
  cases k <;> rfl

theorem put_outline (ds : Definitions) (k : Kind) (d : k.Definition) :
    (ds.put k d).outline = ds.outline.put k (k.outline d) := by
  cases k with
  | assembly =>
    unfold put outline
    dsimp only
    rw [NamedMap.mapValues_insert]
    rfl
  | field =>
    unfold put outline
    dsimp only
    rw [NamedMap.mapValues_insert]
    rfl
  | flag =>
    unfold put outline
    dsimp only
    rw [NamedMap.mapValues_insert]
    rfl

end Definitions

def DefinitionDecl.outline (d : DefinitionDecl) : DefinitionDecl :=
  ⟨d.kind, d.kind.outlineDecl d.definition⟩

def ModuleDecl.outline (d : ModuleDecl) : ModuleDecl :=
  { d with definitions := d.definitions.map DefinitionDecl.outline }

/-- The revision that leaves the outline of every definition, and no alternatives in groups. What a
module's number is does not show either. -/
def outlining : Revision where
  change i := { i with id := 0, definitions := i.definitions.outline }
  definition := Kind.outline
  decl := Kind.outlineDecl
  alternatives _ := []
  source _ := rfl
  registry _ := rfl
  definitions i k := i.definitions.ofKind_outline k
  head := Kind.head_outline
  fieldValue _ := rfl
  flagValue _ := rfl
  prepare := Kind.prepare_outline

def Module.outline (m : Module) : Module := m.revise outlining

def Placed.outline {k : Kind} (d : Placed k) : Placed k := d.revise outlining

def FlagChildDecl.outline (c : FlagChildDecl) : FlagChildDecl := c.revise outlining

def ModelChildDecl.outline (c : ModelChildDecl) : ModelChildDecl := c.revise outlining

def FlagSet.outline (s : FlagSet) : FlagSet := s.revise outlining

def Model.outline (m : Model) : Model := m.revise outlining

theorem Definitions.declare_outline (r : Registry) (source : Source) (ds : Definitions)
    (d : DefinitionDecl) :
    ds.outline.declare r source d.outline = (ds.declare r source d).map outline := by
  have hsize : (ds.outline.ofKind d.kind).size = (ds.ofKind d.kind).size := by
    rw [ofKind_outline]
    exact List.length_map _
  show (do
    let definition ← orBasic (d.kind.prepare r source (some (ds.outline.ofKind d.kind).size)
      (d.kind.outlineDecl d.definition))
    if (ds.outline.ofKind d.kind).contains (d.kind.head definition).name then _
    else Except.ok (ds.outline.put d.kind definition)) = _
  unfold declare
  dsimp only
  rw [hsize, Kind.prepare_outline]
  cases d.kind.prepare r source (some (ds.ofKind d.kind).size) d.definition with
  | error e => rfl
  | ok definition =>
    show (if (ds.outline.ofKind d.kind).contains (d.kind.head (d.kind.outline definition)).name
      then _ else _) = Except.map _ (if _ then _ else _)
    rw [Kind.head_outline, ofKind_outline, NamedMap.contains_mapValues]
    split
    · have hhead : d.outline.kind.head (d.kind.outline definition) = d.kind.head definition :=
        d.kind.head_outline definition
      rw [hhead]
      rfl
    · exact congrArg Except.ok (ds.put_outline d.kind definition).symm

theorem Definitions.foldlM_declare_outline (r : Registry) (source : Source) (ds : Definitions)
    (decls : List DefinitionDecl) :
    (decls.map DefinitionDecl.outline).foldlM (declare r source) ds.outline =
      (decls.foldlM (declare r source) ds).map outline := by
  induction decls generalizing ds with
  | nil => rfl
  | cons d decls ih =>
    rw [List.map_cons, List.foldlM_cons, List.foldlM_cons, declare_outline]
    cases ds.declare r source d with
    | error e => rfl
    | ok ds' => exact ih ds'

namespace Module
variable {setup : Setup} {id : Nat} {d : ModuleDecl} {location : Option Uri} {imports : List Module}

theorem map_outline_assemble :
    (assemble setup id d location imports).map outline =
      assemble setup 0 d.outline location (imports.map outline) := by
  have hd : d.outline.definitions.foldlM
        (Definitions.declare setup.registry (sourceOf d.outline location)) .empty =
      (d.definitions.foldlM (Definitions.declare setup.registry (sourceOf d location)) .empty).map
        Definitions.outline :=
    Definitions.foldlM_declare_outline setup.registry (sourceOf d location) .empty d.definitions
  have hu : d.outline.jsonBaseUri = d.jsonBaseUri := rfl
  unfold assemble
  dsimp only
  rw [hd, hu]
  cases readBaseUri d.jsonBaseUri with
  | error e => rfl
  | ok jsonBaseUri =>
    dsimp only [bind, Except.bind]
    cases d.definitions.foldlM (Definitions.declare setup.registry (sourceOf d location)) .empty
    with
    | error e => rfl
    | ok definitions =>
      show Except.ok (Module.mk _ (reviseAll outlining imports)) = Except.ok (Module.mk _ _)
      rw [reviseAll_eq_map]
      rfl

/-- What is built lazily has the outline that the outlines of declaration and imports give. -/
theorem map_outline_build {s : Store} (h : s.Ahead)
    (hlazy : setup.settings.eagerResolution = false) :
    (Module.build setup d location imports s).1.map outline =
      assemble setup 0 d.outline location (imports.map outline) := by
  rw [← map_outline_assemble, fst_build h]
  unfold declared
  rw [hlazy]
  cases assemble setup s.nextId d location imports with
  | error e => rfl
  | ok m => rfl

end Module

namespace Placed

theorem owner_outline {k : Kind} {d e : Placed k} (h : d.outline = e.outline) :
    d.owner.revise outlining = e.owner.revise outlining := by
  rw [← d.owner_revise, ← e.owner_revise]
  exact congrArg owner h

/-- What a model gives, its outline and its faults, depends on no more than outlines. -/
theorem outlines_model {d e : Placed .assembly} (h : d.outline = e.outline)
    (hmodel : d.decl.model.map ModelChildDecl.outline = e.decl.model.map ModelChildDecl.outline) :
    d.buildModel.outcome.map Model.outline = e.buildModel.outcome.map Model.outline := by
  have hd := Model.restates_build outlining d.owner d.decl.model
  have he := Model.restates_build outlining e.owner e.decl.model
  have hmodel' : d.decl.model.map (ModelChildDecl.revise outlining) =
    e.decl.model.map (ModelChildDecl.revise outlining) := hmodel
  rw [buildModel_eq, buildModel_eq]
  refine hd.outcome_map_eq he ?_
  rw [owner_outline h, hmodel']

theorem outlines_assemblyFlags {d e : Placed .assembly} (h : d.outline = e.outline)
    (hkey : d.decl.jsonKey = e.decl.jsonKey)
    (hflags : d.decl.flags.map FlagChildDecl.outline = e.decl.flags.map FlagChildDecl.outline) :
    d.buildAssemblyFlags.outcome.map FlagSet.outline =
      e.buildAssemblyFlags.outcome.map FlagSet.outline := by
  have hd := FlagSet.restates_build outlining d.owner d.decl.jsonKey d.decl.flags
  have he := FlagSet.restates_build outlining e.owner e.decl.jsonKey e.decl.flags
  have hflags' : d.decl.flags.map (FlagChildDecl.revise outlining) =
    e.decl.flags.map (FlagChildDecl.revise outlining) := hflags
  refine hd.outcome_map_eq he ?_
  rw [owner_outline h, hkey, hflags']

theorem outlines_fieldFlags {d e : Placed .field} (h : d.outline = e.outline)
    (hkey : d.decl.jsonKey = e.decl.jsonKey)
    (hvalueKey : d.decl.jsonValueKeyFlag = e.decl.jsonValueKeyFlag)
    (hflags : d.decl.flags.map FlagChildDecl.outline = e.decl.flags.map FlagChildDecl.outline) :
    d.buildFieldFlags.outcome.map FlagSet.outline =
      e.buildFieldFlags.outcome.map FlagSet.outline := by
  have hd := FlagSet.restates_buildOfField outlining d.owner d.decl.jsonKey
    d.decl.jsonValueKeyFlag d.decl.flags
  have he := FlagSet.restates_buildOfField outlining e.owner e.decl.jsonKey
    e.decl.jsonValueKeyFlag e.decl.flags
  have hflags' : d.decl.flags.map (FlagChildDecl.revise outlining) =
    e.decl.flags.map (FlagChildDecl.revise outlining) := hflags
  rw [buildFieldFlags_eq, buildFieldFlags_eq]
  refine hd.outcome_map_eq he ?_
  rw [owner_outline h, hkey, hvalueKey, hflags']

end Placed

end InfoModel

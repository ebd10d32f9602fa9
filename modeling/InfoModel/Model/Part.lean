import InfoModel.Constraint.Compile
import InfoModel.Model.Content

/-!
# Parts

The flags, the model and the constraints of a definition and the alternatives of a group are its
parts. A part has a slot, which tells it from every other part, and the building that gives it its
content. An empty model and an empty group of alternatives need nothing from their module; all other
parts do.
-/

namespace InfoModel

inductive Role where
  | flags
  | model
  | constraints
  | alternatives
deriving Repr, DecidableEq

/-- What tells a part from every other: the number of its module, its place there and its role. -/
structure Slot where
  home : Nat
  site : Site
  role : Role
deriving Repr, DecidableEq

/-- A part, which may not be built yet: its slot, the definition it is named after, whether it needs
its module, and how it is built. -/
structure Part (α : Type) where
  slot : Slot
  definition : QName
  needsModule : Bool
  build : Build α

namespace Part

def ofOwner (owner : Owner) (role : Role) (needsModule : Bool) (build : Build α) : Part α :=
  ⟨⟨owner.home.id, owner.site, role⟩, owner.definition, needsModule, build⟩

def map (f : α → β) (p : Part α) : Part β := ⟨p.slot, p.definition, p.needsModule, f <$> p.build⟩

/-- The part as something to be built, whatever its content. -/
def forget (p : Part α) : Part Unit := p.map fun _ => ()

end Part

namespace Placed

def assemblyFlags (d : Placed .assembly) : Part FlagSet :=
  .ofOwner d.owner .flags true d.buildAssemblyFlags

def fieldFlags (d : Placed .field) : Part FlagSet := .ofOwner d.owner .flags true d.buildFieldFlags

def model (d : Placed .assembly) : Part Model :=
  .ofOwner d.owner .model (!d.decl.model.isEmpty) d.buildModel

end Placed

def ChoiceGroup.content (g : ChoiceGroup) : Part Alternatives :=
  .ofOwner g.owner .alternatives (!g.alternatives.isEmpty) g.buildAlternatives

/-- The compiled constraints of the definition with a name in a module. -/
def compiledFor (m : Module) (definition : QName) (c : Compiled ConstraintSet) :
    Build ConstraintSet :=
  (c.mapFault fun f => .constraint definition.text m.shortName f).mapStep .notice

namespace Placed

/-- The constraints of a definition: none if it declares no block. -/
def buildConstraints : (k : Kind) → Placed k → Build ConstraintSet
  | .assembly, d =>
    match d.definition.decl.constraint with
    | some c =>
      compiledFor d.home d.name (compileModelConstraints d.home.info.setup.registry d.head.source c)
    | none => .value .empty
  | .field, d =>
    match d.definition.decl.constraint with
    | some c =>
      compiledFor d.home d.name
        (compileValueConstraints d.home.info.setup.registry d.head.source .field c)
    | none => .value .empty
  | .flag, d =>
    match d.definition.decl.constraint with
    | some c =>
      compiledFor d.home d.name
        (compileValueConstraints d.home.info.setup.registry d.head.source .flag c)
    | none => .value .empty

def constraints (d : Placed k) : Part ConstraintSet :=
  .ofOwner d.owner .constraints true (buildConstraints k d)

end Placed

end InfoModel

import InfoModel.Proofs.Visibility.Revision

/-!
# Modules under other labels

The number of a module and the settings that it was built with are labels: they tell modules apart
and govern when parts are built, but neither what a name means nor what is exported depends on them.
A change of labels is a revision that leaves all definitions as they are, so what is known of
revised modules holds of it.
-/

namespace InfoModel

/-- A change of labels: what is known of a module changes, but not its source, its datatypes and its
global definitions. -/
structure Relabelling where
  change : ModuleInfo → ModuleInfo
  source : ∀ i, (change i).source = i.source
  registry : ∀ i, (change i).setup.registry = i.setup.registry
  definitions : ∀ i, (change i).definitions = i.definitions

namespace Relabelling

/-- The revision that changes labels only. -/
def revision (r : Relabelling) : Revision where
  change := r.change
  definition _ d := d
  decl _ d := d
  alternatives as := as
  source := r.source
  registry := r.registry
  definitions i k := by
    rw [r.definitions]
    exact (NamedMap.mapValues_id _).symm
  head _ _ := rfl
  fieldValue _ := rfl
  flagValue _ := rfl
  prepare registry source position k d := by
    cases k.prepare registry source position d with
    | error e => rfl
    | ok definition => rfl

end Relabelling

abbrev Module.relabel (r : Relabelling) : Module → Module := revise r.revision

abbrev Placed.relabel {k : Kind} (r : Relabelling) : Placed k → Placed k := revise r.revision

end InfoModel

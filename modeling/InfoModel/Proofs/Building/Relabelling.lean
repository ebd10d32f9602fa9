import InfoModel.Proofs.Building.Revision
import InfoModel.Proofs.Visibility.Relabelling

/-!
# Building under other labels

What is built for a definition does not depend on the labels of modules: under other labels the same
is built, with the definitions that it refers to under their labels, and what could not be built
fails for the same reason. All of it is what is known of revised modules. Main statements:
`FlagSet.restates_relabel`, `Placed.restates_buildModel`,
`ChoiceGroup.restates_buildAlternatives`.
-/

namespace InfoModel

variable (r : Relabelling)

abbrev Owner.relabel : Owner → Owner := revise r.revision

abbrev Instance.relabel {k : Kind} : Instance k → Instance k := revise r.revision

abbrev FlagInstance.relabel : FlagInstance → FlagInstance := revise r.revision

abbrev FlagSet.relabel : FlagSet → FlagSet := revise r.revision

abbrev Element.relabel : Element → Element := revise r.revision

abbrev NamedInstance.relabel : NamedInstance → NamedInstance := revise r.revision

abbrev ChoiceGroup.relabel : ChoiceGroup → ChoiceGroup := revise r.revision

abbrev ModelInstance.relabel : ModelInstance → ModelInstance := revise r.revision

abbrev Model.relabel : Model → Model := revise r.revision

abbrev Alternative.relabel : Alternative → Alternative := revise r.revision

abbrev Alternatives.relabel : Alternatives → Alternatives := revise r.revision

-- labels change no declaration

theorem FlagChildDecl.map_revision (cs : List FlagChildDecl) :
    cs.map (FlagChildDecl.revise r.revision) = cs := by
  refine List.map_id'' (fun c => ?_) cs
  show { c with origin := c.origin.map fun d => d } = c
  rw [OriginDecl.map_id]

theorem NamedChildDecl.revise_revision (c : NamedChildDecl) : c.revise r.revision = c := by
  cases c with
  | assembly use origin => exact congrArg (NamedChildDecl.assembly use) origin.map_id
  | field use inXml origin => exact congrArg (NamedChildDecl.field use inXml) origin.map_id

theorem ModelChildDecl.map_revision (cs : List ModelChildDecl) :
    cs.map (ModelChildDecl.revise r.revision) = cs := by
  refine List.map_id'' (fun c => ?_) cs
  cases c with
  | named child => exact congrArg ModelChildDecl.named (child.revise_revision r)
  | choice children =>
    exact congrArg ModelChildDecl.choice (List.map_id'' (NamedChildDecl.revise_revision r) children)
  | group head alternatives => rfl

theorem AlternativeDecl.map_revision (as : List AlternativeDecl) :
    as.map (AlternativeDecl.revise r.revision) = as := by
  refine List.map_id'' (fun a => ?_) as
  cases a with
  | assembly discriminator origin =>
    exact congrArg (AlternativeDecl.assembly discriminator) origin.map_id
  | field discriminator origin => exact congrArg (AlternativeDecl.field discriminator) origin.map_id

theorem FlagSet.restates_relabel (owner : Owner) (jsonKey : Option String)
    (children : List FlagChildDecl) :
    Traced.Restates (FlagSet.relabel r) (FlagSet.build owner jsonKey children)
      (FlagSet.build (owner.relabel r) jsonKey children) := by
  have h := restates_build r.revision owner jsonKey children
  rwa [FlagChildDecl.map_revision] at h

theorem Placed.restates_buildFieldFlags (d : Placed .field) :
    Traced.Restates (FlagSet.relabel r) d.buildFieldFlags (d.relabel r).buildFieldFlags := by
  have h := FlagSet.restates_buildOfField r.revision d.owner d.decl.jsonKey d.decl.jsonValueKeyFlag
    d.decl.flags
  rwa [FlagChildDecl.map_revision] at h

theorem Placed.restates_buildModel (d : Placed .assembly) :
    Traced.Restates (Model.relabel r) d.buildModel (d.relabel r).buildModel := by
  have h := Model.restates_build r.revision d.owner d.decl.model
  rwa [ModelChildDecl.map_revision] at h

theorem ChoiceGroup.restates_buildAlternatives (g : ChoiceGroup) :
    Traced.Restates (Alternatives.relabel r) g.buildAlternatives
      (g.relabel r).buildAlternatives := by
  have h := Alternatives.restates_build r.revision g.owner g.head.jsonKey g.alternatives
  rwa [AlternativeDecl.map_revision] at h

theorem Placed.outcome_buildConstraints_relabel {k : Kind} (d : Placed k) :
    (buildConstraints k (d.relabel r)).outcome = (buildConstraints k d).outcome := by
  have hs : (d.relabel r).home.shortName = d.home.shortName :=
    Module.shortName_revise r.revision d.home
  have hr : (d.relabel r).home.info.setup.registry = d.home.info.setup.registry :=
    Module.registry_revise r.revision d.home
  cases k with
  | assembly =>
    dsimp only [buildConstraints, compiledFor]
    rw [hs, hr]
    rfl
  | field =>
    dsimp only [buildConstraints, compiledFor]
    rw [hs, hr]
    rfl
  | flag =>
    dsimp only [buildConstraints, compiledFor]
    rw [hs, hr]
    rfl

end InfoModel

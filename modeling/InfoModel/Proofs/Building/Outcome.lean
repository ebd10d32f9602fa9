import InfoModel.Proofs.Building.Relabelling

/-!
# Outcomes of parts

Whether a module can be resolved is decided by the outcomes of its parts, each on its own. They do
not depend on the labels of modules. Main statement: `Module.outcomes_relabel`.
-/

namespace InfoModel

def outcomes (ps : List (Part Unit)) : List (Except ModelFault Unit) := ps.map (·.build.outcome)

theorem outcomes_append (ps qs : List (Part Unit)) :
    outcomes (ps ++ qs) = outcomes ps ++ outcomes qs := List.map_append

theorem outcomes_flatMap (f : α → List (Part Unit)) (as : List α) :
    outcomes (as.flatMap f) = as.flatMap fun a => outcomes (f a) := List.map_flatMap

namespace Part

theorem outcome_forget (p : Part α) :
    p.forget.build.outcome = p.build.outcome.map fun _ => () := by
  unfold forget Part.map
  rw [← bind_pure_comp, Traced.outcome_bind]
  cases p.build.outcome with
  | error e => rfl
  | ok a => rfl

theorem outcome_forget_of_restates {f : α → β} {p : Part α} {q : Part β}
    (h : Traced.Restates f p.build q.build) : q.forget.build.outcome = p.forget.build.outcome := by
  unfold Traced.Restates at h
  rw [outcome_forget, outcome_forget, h]
  cases p.build.outcome with
  | error e => rfl
  | ok a => rfl

theorem content?_of_restates {f : α → β} {p : Part α} {q : Part β}
    (h : Traced.Restates f p.build q.build) : q.content? = p.content?.map f := by
  unfold Traced.Restates at h
  unfold content?
  rw [h]
  cases p.build.outcome with
  | error e => rfl
  | ok a => rfl

end Part

variable (r : Relabelling)

namespace Placed

theorem outcome_constraints_relabel {k : Kind} (d : Placed k) :
    (d.relabel r).constraints.forget.build.outcome = d.constraints.forget.build.outcome := by
  rw [Part.outcome_forget, Part.outcome_forget]
  exact congrArg (Except.map fun _ => ()) (d.outcome_buildConstraints_relabel r)

theorem outcomes_flagParts_relabel (d : Placed .flag) :
    outcomes (d.relabel r).flagParts = outcomes d.flagParts :=
  congrArg (fun o => [o]) (d.outcome_constraints_relabel r)

end Placed

theorem FlagInstance.outcomes_parts_relabel (i : FlagInstance) :
    outcomes (i.relabel r).parts = outcomes i.parts := by
  unfold parts
  show outcomes (if i.base.isInline then _ else _) = _
  by_cases hi : i.base.isInline = true
  · rw [if_pos hi, if_pos hi]
    exact i.base.definition.outcomes_flagParts_relabel r
  · rw [if_neg hi, if_neg hi]

theorem outcomes_flagSetParts {p q : Part FlagSet}
    (h : Traced.Restates (FlagSet.relabel r) p.build q.build) :
    outcomes (flagSetParts q) = outcomes (flagSetParts p) := by
  unfold flagSetParts
  rw [Part.content?_of_restates h]
  show q.forget.build.outcome :: _ = p.forget.build.outcome :: _
  rw [Part.outcome_forget_of_restates h]
  congr 1
  cases p.content? with
  | none => rfl
  | some s =>
    show outcomes ((s.instances.map (FlagInstance.relabel r)).flatMap FlagInstance.parts) =
      outcomes (s.instances.flatMap FlagInstance.parts)
    rw [outcomes_flatMap, outcomes_flatMap, List.flatMap_map]
    simp only [FlagInstance.outcomes_parts_relabel]

theorem Placed.outcomes_fieldParts_relabel (d : Placed .field) :
    outcomes (d.relabel r).fieldParts = outcomes d.fieldParts := by
  unfold fieldParts
  have hf : outcomes (flagSetParts (d.relabel r).fieldFlags) =
      outcomes (flagSetParts d.fieldFlags) := outcomes_flagSetParts r (d.restates_buildFieldFlags r)
  rw [outcomes_append, outcomes_append, hf]
  exact congrArg (fun o => _ ++ [o]) (d.outcome_constraints_relabel r)

/-- What matters of something inside an assembly: the outcome of a part, or another assembly. -/
def Inner.view : Inner → Except ModelFault Unit ⊕ Placed .assembly
  | .part p => .inl p.build.outcome
  | .assembly a => .inr a

def views (xs : List Inner) : List (Except ModelFault Unit ⊕ Placed .assembly) :=
  xs.map Inner.view

def relabelViews (vs : List (Except ModelFault Unit ⊕ Placed .assembly)) :
    List (Except ModelFault Unit ⊕ Placed .assembly) :=
  vs.map (Sum.map id (Placed.relabel r))

theorem views_parts (ps : List (Part Unit)) : views (ps.map .part) = (outcomes ps).map .inl := by
  unfold views outcomes
  rw [List.map_map, List.map_map]
  rfl

theorem relabelViews_outcomes (os : List (Except ModelFault Unit)) :
    relabelViews r (os.map .inl) = os.map .inl := by
  unfold relabelViews
  rw [List.map_map]
  rfl

theorem views_flatMap_relabel {f : α → α} {inner : α → List Inner}
    (h : ∀ a, views (inner (f a)) = relabelViews r (views (inner a))) (as : List α) :
    views ((as.map f).flatMap inner) = relabelViews r (views (as.flatMap inner)) := by
  induction as with
  | nil => rfl
  | cons a as ih =>
    unfold views relabelViews at h ih ⊢
    rw [List.map_cons, List.flatMap_cons, List.flatMap_cons, List.map_append, List.map_append,
      List.map_append, h, ih]

theorem Element.views_relabel (e : Element) :
    views (e.relabel r).inner = relabelViews r (views e.inner) := by
  cases e with
  | assembly i =>
    show views (if i.isInline then [.assembly (i.relabel r).definition] else []) =
      relabelViews r (views (if i.isInline then [.assembly i.definition] else []))
    by_cases hi : i.isInline = true
    · rw [if_pos hi, if_pos hi]
      rfl
    · rw [if_neg hi, if_neg hi]
      rfl
  | field i =>
    show views (if i.isInline then (i.relabel r).definition.fieldParts.map .part else []) =
      relabelViews r (views (if i.isInline then i.definition.fieldParts.map .part else []))
    by_cases hi : i.isInline = true
    · rw [if_pos hi, if_pos hi, views_parts, views_parts, relabelViews_outcomes]
      exact congrArg _ (i.definition.outcomes_fieldParts_relabel r)
    · rw [if_neg hi, if_neg hi]
      rfl

def Part.held (inner : α → List Inner) (p : Part α) : List Inner :=
  .part p.forget :: match p.content? with
    | some a => inner a
    | none => []

theorem views_held {f : α → α} {inner : α → List Inner}
    (h : ∀ a, views (inner (f a)) = relabelViews r (views (inner a))) {p q : Part α}
    (hp : Traced.Restates f p.build q.build) :
    views (q.held inner) = relabelViews r (views (p.held inner)) := by
  unfold Part.held
  rw [Part.content?_of_restates hp]
  show Sum.inl q.forget.build.outcome :: _ = Sum.inl p.forget.build.outcome :: _
  rw [Part.outcome_forget_of_restates hp]
  congr 1
  cases p.content? with
  | none => rfl
  | some a => exact h a

theorem ChoiceGroup.inner_eq_held (g : ChoiceGroup) :
    g.inner = g.content.held fun as => as.instances.flatMap fun a => a.element.inner := by
  unfold inner Part.held
  cases g.content.content? with
  | none => rfl
  | some as => rfl

theorem ChoiceGroup.views_relabel (g : ChoiceGroup) :
    views (g.relabel r).inner = relabelViews r (views g.inner) := by
  rw [inner_eq_held, inner_eq_held]
  refine views_held r (fun as => ?_) (g.restates_buildAlternatives r)
  exact views_flatMap_relabel r (fun a => a.element.views_relabel r) as.instances

theorem ModelInstance.views_relabel (i : ModelInstance) :
    views (i.relabel r).inner = relabelViews r (views i.inner) := by
  have hn : ∀ n : NamedInstance,
      views (n.relabel r).element.inner = relabelViews r (views n.element.inner) := by
    intro n
    rw [NamedInstance.element_revise]
    exact n.element.views_relabel r
  cases i with
  | named n => exact hn n
  | choice c => exact views_flatMap_relabel r hn c.body
  | group g => exact g.views_relabel r

namespace Placed

theorem innerOfModel_eq_held (d : Placed .assembly) :
    d.innerOfModel = d.model.held fun m => m.instances.flatMap ModelInstance.inner := by
  unfold innerOfModel Part.held
  cases d.model.content? with
  | none => rfl
  | some m => rfl

theorem views_relabel (d : Placed .assembly) :
    views (d.relabel r).inner = relabelViews r (views d.inner) := by
  have hf : outcomes (flagSetParts (d.relabel r).assemblyFlags) =
      outcomes (flagSetParts d.assemblyFlags) :=
    outcomes_flagSetParts r (FlagSet.restates_relabel r d.owner d.decl.jsonKey d.decl.flags)
  have hm : views (d.relabel r).innerOfModel = relabelViews r (views d.innerOfModel) := by
    rw [innerOfModel_eq_held, innerOfModel_eq_held]
    refine views_held r (fun m => ?_) (d.restates_buildModel r)
    exact views_flatMap_relabel r (fun i => i.views_relabel r) m.instances
  have hp := views_parts (flagSetParts d.assemblyFlags)
  have hq := views_parts (flagSetParts (d.relabel r).assemblyFlags)
  rw [hf] at hq
  have hr := relabelViews_outcomes r (outcomes (flagSetParts d.assemblyFlags))
  unfold inner
  unfold views relabelViews at *
  rw [List.map_append, List.map_append, List.map_append, List.map_append, List.map_append,
    List.map_append, hp, hq, hr, hm]
  exact congrArg (fun o => _ ++ [Sum.inl o]) (d.outcome_constraints_relabel r)

end Placed

def Inner.parts : Inner → List (Part Unit)
  | .part p => [p]
  | .assembly a => a.assemblyParts

namespace Placed

theorem assemblyParts_eq (d : Placed .assembly) :
    d.assemblyParts = d.inner.flatMap Inner.parts := by
  rw [assemblyParts]
  refine Eq.trans ?_ (congrArg (List.flatMap Inner.parts) d.inner.attach_map_subtype_val)
  rw [List.flatMap_map]
  congr 1
  funext x
  obtain ⟨x, hx⟩ := x
  cases x with
  | part p => rfl
  | assembly a => rfl

theorem outcomes_assemblyParts (d : Placed .assembly) :
    outcomes d.assemblyParts =
      (views d.inner).flatMap (Sum.elim (fun o => [o]) fun a => outcomes a.assemblyParts) := by
  rw [assemblyParts_eq, outcomes_flatMap]
  unfold views
  rw [List.flatMap_map]
  congr 1
  funext x
  cases x with
  | part p => rfl
  | assembly a => rfl

theorem outcomes_assemblyParts_relabel (d : Placed .assembly) :
    outcomes (d.relabel r).assemblyParts = outcomes d.assemblyParts := by
  -- inner assemblies are smaller
  induction d using assemblyParts.induct with
  | case1 d ih =>
    rw [outcomes_assemblyParts, outcomes_assemblyParts, views_relabel]
    unfold relabelViews
    rw [List.flatMap_map]
    refine List.flatMap_congr ?_
    intro v hv
    obtain ⟨x, hx, rfl⟩ := List.mem_map.mp hv
    cases x with
    | part p => rfl
    | assembly a => exact ih a hx

end Placed

/-- The parts of a module have the same outcomes under other labels. -/
theorem Module.outcomes_relabel (m : Module) : outcomes (m.relabel r).parts = outcomes m.parts := by
  unfold parts
  rw [own_revise, own_revise, own_revise]
  simp only [outcomes_append, outcomes_flatMap, List.flatMap_map,
    Placed.outcomes_flagParts_relabel, Placed.outcomes_fieldParts_relabel,
    Placed.outcomes_assemblyParts_relabel]

end InfoModel

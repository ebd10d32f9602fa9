import InfoModel.Proofs.Building.Outcome
import InfoModel.Proofs.Building.Ownership
import Mathlib.Logic.Relation

/-!
# What stands inside a module

Definitions, choices and groups stand in each other: a definition in an inline flag or child of
another one, in the body of a choice or among the alternatives of a group. What stands in the global
definitions at any depth has parts, and these are the parts that full resolution asks for. Main
statements: `Occupant.induct`, `Occupant.parts_eq`, `Module.mem_parts_iff`.
-/

namespace InfoModel

/-! ### Parts with their content -/

/-- The parts of definitions and groups, told by whose they are. -/
inductive Aggregate where
  | assemblyFlags (d : Placed .assembly)
  | fieldFlags (d : Placed .field)
  | model (d : Placed .assembly)
  | constraints (k : Kind) (d : Placed k)
  | alternatives (g : ChoiceGroup)

namespace Aggregate

@[reducible] def Content : Aggregate → Type
  | .assemblyFlags _ => FlagSet
  | .fieldFlags _ => FlagSet
  | .model _ => Model
  | .constraints .. => ConstraintSet
  | .alternatives _ => Alternatives

def part : (a : Aggregate) → Part a.Content
  | .assemblyFlags d => d.assemblyFlags
  | .fieldFlags d => d.fieldFlags
  | .model d => d.model
  | .constraints _ d => d.constraints
  | .alternatives g => g.content

def task (a : Aggregate) : Part Unit := a.part.forget

def home : Aggregate → Module
  | .assemblyFlags d => d.home
  | .fieldFlags d => d.home
  | .model d => d.home
  | .constraints _ d => d.home
  | .alternatives g => g.owner.home

theorem slot_task (a : Aggregate) : a.task.slot = a.part.slot := rfl

theorem of_part (a : Aggregate) : a.part.Of a.home := by
  cases a with
  | assemblyFlags d => exact d.of_assemblyFlags
  | fieldFlags d => exact d.of_fieldFlags
  | model d => exact d.of_model
  | constraints k d => exact d.of_constraints
  | alternatives g => exact g.of_content

end Aggregate

/-! ### Occupants -/

/-- What stands at a place of a module. -/
inductive Occupant where
  | definition (k : Kind) (d : Placed k)
  | choice (home : Module) (site : Site) (c : Choice)
  | group (g : ChoiceGroup)

def Instance.held? (i : Instance k) : Option Occupant :=
  if i.isInline then some (.definition k i.definition) else none

def Element.held? : Element → Option Occupant
  | .assembly i => i.held?
  | .field i => i.held?

/-- What a child of a model holds or is, in its place. -/
def ModelInstance.held? (home : Module) (site : Site) : ModelInstance → Option Occupant
  | .named i => i.element.held?
  | .choice c => some (.choice home site c)
  | .group g => some (.group g)

def FlagSet.held (s : FlagSet) : List (Option Occupant) := s.instances.map fun i => i.base.held?

def Model.held (home : Module) (site : Site) (m : Model) : List (Option Occupant) :=
  m.instances.mapIdx fun n i => i.held? home (.child site n)

namespace Occupant

def home : Occupant → Module
  | .definition _ d => d.home
  | .choice home _ _ => home
  | .group g => g.owner.home

def site : Occupant → Site
  | .definition _ d => d.site
  | .choice _ site _ => site
  | .group g => g.owner.site

def flags : Occupant → List (Option Occupant)
  | .definition .assembly d => d.assemblyFlags.content?.elim [] FlagSet.held
  | .definition .field d => d.fieldFlags.content?.elim [] FlagSet.held
  | _ => []

/-- What the children of an occupant hold or are, child by child. Children whose name is taken by
later ones are among them. -/
def children : Occupant → List (Option Occupant)
  | .definition .assembly d => d.model.content?.elim [] (Model.held d.home d.site)
  | .choice _ _ c => c.body.map fun i => i.element.held?
  | .group g => g.content.content?.elim [] fun as => as.instances.map fun a => a.element.held?
  | _ => []

/-- One occupant stands directly in another. -/
def Holds (x y : Occupant) : Prop := some y ∈ x.flags ∨ some y ∈ x.children

def aggregate? : Occupant → Role → Option Aggregate
  | .definition .assembly d, .flags => some (.assemblyFlags d)
  | .definition .field d, .flags => some (.fieldFlags d)
  | .definition .assembly d, .model => some (.model d)
  | .definition k d, .constraints => some (.constraints k d)
  | .group g, .alternatives => some (.alternatives g)
  | _, _ => none

theorem home_of_aggregate? {x : Occupant} {r : Role} {a : Aggregate}
    (h : x.aggregate? r = some a) : a.home = x.home := by
  cases x with
  | definition k d => (cases k <;> cases r <;> cases h) <;> rfl
  | choice home site c => cases h
  | group g => (cases r <;> cases h); rfl

theorem slot_of_aggregate? {x : Occupant} {r : Role} {a : Aggregate}
    (h : x.aggregate? r = some a) : a.part.slot = ⟨x.home.id, x.site, r⟩ := by
  cases x with
  | definition k d => (cases k <;> cases r <;> cases h) <;> rfl
  | choice home site c => cases h
  | group g => (cases r <;> cases h); rfl

/-! ### Occupants in each other -/

theorem of_held?_element {e : Element} {y : Occupant} (h : e.held? = some y) :
    (∃ a, y = .definition .assembly a ∧ .assembly a ∈ e.inner) ∨ ∃ f, y = .definition .field f := by
  cases e with
  | assembly i =>
    simp only [Element.held?, Instance.held?] at h
    split at h
    · rename_i hi
      cases h
      refine .inl ⟨i.definition, rfl, ?_⟩
      simp only [Element.inner, hi, if_true, List.mem_singleton]
    · contradiction
  | field i =>
    simp only [Element.held?, Instance.held?] at h
    split at h
    · cases h
      exact .inr ⟨i.definition, rfl⟩
    · contradiction

theorem flag_of_held {s : FlagSet} {y : Occupant} (h : some y ∈ s.held) :
    ∃ f, y = .definition .flag f := by
  obtain ⟨i, -, hi⟩ := List.mem_map.mp h
  unfold Instance.held? at hi
  split at hi
  · cases hi
    exact ⟨i.base.definition, rfl⟩
  · contradiction

theorem mem_held_model {home : Module} {site : Site} {m : Model} {o : Option Occupant}
    (h : o ∈ m.held home site) : ∃ n, ∃ i ∈ m.instances, i.held? home (.child site n) = o := by
  obtain ⟨n, hn, ho⟩ := List.mem_mapIdx.mp h
  exact ⟨n, m.instances[n], List.getElem_mem hn, ho⟩

theorem mem_elim {p : Part α} {f : α → List β} {b : β} (h : b ∈ p.content?.elim [] f) :
    ∃ a, p.content? = some a ∧ b ∈ f a := by
  cases hp : p.content? with
  | none =>
    rw [hp] at h
    exact absurd h List.not_mem_nil
  | some a =>
    rw [hp] at h
    exact ⟨a, rfl, h⟩

section
variable {P : Occupant → Prop} (step : ∀ x : Occupant, (∀ y, x.Holds y → P y) → P x)
include step

theorem induct_flag (d : Placed .flag) : P (.definition .flag d) := by
  refine step _ ?_
  rintro y (hy | hy)
  · exact absurd hy List.not_mem_nil
  · exact absurd hy List.not_mem_nil

theorem induct_flags {p : Part FlagSet} {y : Occupant}
    (hy : some y ∈ p.content?.elim [] FlagSet.held) : P y := by
  obtain ⟨s, -, hy⟩ := mem_elim hy
  obtain ⟨f, rfl⟩ := flag_of_held hy
  exact induct_flag step f

theorem induct_field (d : Placed .field) : P (.definition .field d) := by
  refine step _ ?_
  rintro y (hy | hy)
  · exact induct_flags step hy
  · exact absurd hy List.not_mem_nil

theorem induct_element {e : Element} {y : Occupant}
    (he : ∀ a, .assembly a ∈ e.inner → P (.definition .assembly a)) (hy : e.held? = some y) :
    P y := by
  rcases of_held?_element hy with ⟨a, rfl, ha⟩ | ⟨f, rfl⟩
  · exact he a ha
  · exact induct_field step f

theorem induct_choice {home : Module} {site : Site} {c : Choice}
    (hc : ∀ i ∈ c.body, ∀ a, .assembly a ∈ i.element.inner → P (.definition .assembly a)) :
    P (.choice home site c) := by
  refine step _ ?_
  rintro y (hy | hy)
  · exact absurd hy List.not_mem_nil
  · obtain ⟨i, hi, hy⟩ := List.mem_map.mp hy
    exact induct_element step (hc i hi) hy

theorem induct_group {g : ChoiceGroup}
    (hg : ∀ a, .assembly a ∈ g.inner → P (.definition .assembly a)) : P (.group g) := by
  refine step _ ?_
  rintro y (hy | hy)
  · exact absurd hy List.not_mem_nil
  · obtain ⟨as, has, hy⟩ := mem_elim hy
    obtain ⟨i, hi, hy⟩ := List.mem_map.mp hy
    refine induct_element step (fun a ha => hg a ?_) hy
    unfold ChoiceGroup.inner
    rw [has]
    exact List.mem_cons_of_mem _ (List.mem_flatMap.mpr ⟨i, hi, ha⟩)

theorem induct_child {home : Module} {site : Site} {i : ModelInstance} {y : Occupant}
    (hi : ∀ a, .assembly a ∈ i.inner → P (.definition .assembly a))
    (hy : i.held? home site = some y) : P y := by
  cases i with
  | named j => exact induct_element step hi hy
  | choice c =>
    cases hy
    exact induct_choice step fun j hj a ha => hi a (List.mem_flatMap.mpr ⟨j, hj, ha⟩)
  | group g =>
    cases hy
    exact induct_group step hi

theorem induct_assembly (d : Placed .assembly) : P (.definition .assembly d) := by
  -- as full resolution goes down: the assemblies inside are declared inside
  induction d using Placed.assemblyParts.induct with
  | case1 d ih =>
    refine step _ ?_
    rintro y (hy | hy)
    · exact induct_flags step hy
    · obtain ⟨m, hm, hy⟩ := mem_elim hy
      obtain ⟨n, i, hi, hy⟩ := mem_held_model hy
      refine induct_child step (fun a ha => ih a ?_) hy
      have hmodel : .assembly a ∈ d.innerOfModel := by
        unfold Placed.innerOfModel
        rw [hm]
        exact List.mem_cons_of_mem _ (List.mem_flatMap.mpr ⟨i, hi, ha⟩)
      exact List.mem_append_left _ (List.mem_append_right _ hmodel)

theorem induct (x : Occupant) : P x := by
  cases x with
  | definition k d =>
    cases k with
    | assembly => exact induct_assembly step d
    | field => exact induct_field step d
    | flag => exact induct_flag step d
  | choice home site c => exact induct_choice step fun _ _ a _ => induct_assembly step a
  | group g => exact induct_group step fun a _ => induct_assembly step a

end

/-! ### Parts of occupants -/

/-- The parts of an occupant and of all that stands in it, in the order of full resolution. -/
def parts : Occupant → List (Part Unit)
  | .definition k d => Placed.parts k d
  | .choice _ _ c => c.body.flatMap fun i => i.element.inner.flatMap Inner.parts
  | .group g => g.inner.flatMap Inner.parts

def task (x : Occupant) (r : Role) : List (Part Unit) :=
  (x.aggregate? r).elim [] fun a => [a.task]

def partsOf (os : List (Option Occupant)) : List (Part Unit) := os.flatMap fun o => o.elim [] parts

theorem parts_element (e : Element) : e.inner.flatMap Inner.parts = e.held?.elim [] parts := by
  cases e with
  | assembly i =>
    simp only [Element.inner, Element.held?, Instance.held?]
    split
    · exact List.append_nil _
    · rfl
  | field i =>
    simp only [Element.inner, Element.held?, Instance.held?]
    split
    · rw [List.flatMap_map]
      exact List.flatMap_pure_eq_map id _ |>.trans (List.map_id _)
    · rfl

theorem parts_flagSet (p : Part FlagSet) :
    flagSetParts p = p.forget :: partsOf (p.content?.elim [] FlagSet.held) := by
  have hi : ∀ i : FlagInstance, i.parts = i.base.held?.elim [] parts := by
    intro i
    simp only [FlagInstance.parts, Instance.held?]
    split <;> rfl
  unfold flagSetParts
  congr 1
  cases p.content? with
  | none => rfl
  | some s =>
    show s.instances.flatMap FlagInstance.parts = (s.instances.map _).flatMap _
    rw [List.flatMap_map]
    exact List.flatMap_congr fun i _ => hi i

theorem parts_modelInstance (home : Module) (site : Site) (i : ModelInstance) :
    i.inner.flatMap Inner.parts = (i.held? home site).elim [] parts := by
  cases i with
  | named j => exact parts_element j.element
  | choice c => exact List.flatMap_assoc
  | group g => rfl

theorem parts_held_model (home : Module) (site : Site) (m : Model) :
    (m.instances.flatMap ModelInstance.inner).flatMap Inner.parts =
      partsOf (m.held home site) := by
  unfold partsOf Model.held
  rw [List.flatMap_assoc, List.flatMap_def, List.flatMap_def]
  congr 1
  refine List.ext_getElem ?_ ?_
  · rw [List.length_map, List.length_map, List.length_mapIdx]
  · intro n h₁ h₂
    rw [List.getElem_map, List.getElem_map, List.getElem_mapIdx]
    exact parts_modelInstance home (.child site n) _

theorem parts_innerOfModel (d : Placed .assembly) :
    d.innerOfModel.flatMap Inner.parts =
      d.model.forget :: partsOf (d.model.content?.elim [] (Model.held d.home d.site)) := by
  unfold Placed.innerOfModel
  rw [List.flatMap_cons]
  refine congrArg (d.model.forget :: ·) ?_
  cases d.model.content? with
  | none => rfl
  | some m => exact parts_held_model d.home d.site m

theorem parts_assembly (d : Placed .assembly) :
    d.assemblyParts = flagSetParts d.assemblyFlags ++ d.innerOfModel.flatMap Inner.parts ++
      [d.constraints.forget] := by
  rw [Placed.assemblyParts_eq]
  unfold Placed.inner
  rw [List.flatMap_append, List.flatMap_append, List.flatMap_map]
  exact congrArg (fun ps => ps ++ _ ++ _) ((List.flatMap_pure_eq_map id _).trans (List.map_id _))

theorem parts_group (g : ChoiceGroup) :
    g.inner.flatMap Inner.parts = g.content.forget ::
      partsOf (g.content.content?.elim [] fun as => as.instances.map fun a => a.element.held?) := by
  unfold ChoiceGroup.inner
  rw [List.flatMap_cons]
  refine congrArg (g.content.forget :: ·) ?_
  cases g.content.content? with
  | none => rfl
  | some as =>
    show (as.instances.flatMap _).flatMap _ = (as.instances.map _).flatMap _
    rw [List.flatMap_assoc, List.flatMap_map]
    exact List.flatMap_congr fun a _ => parts_element a.element

theorem parts_eq (x : Occupant) :
    x.parts = x.task .flags ++ partsOf x.flags ++ x.task .model ++ x.task .alternatives ++
      partsOf x.children ++ x.task .constraints := by
  cases x with
  | definition k d =>
    cases k with
    | assembly =>
      show d.assemblyParts = _
      rw [parts_assembly, parts_flagSet, parts_innerOfModel]
      simp only [task, aggregate?, Option.elim, List.append_assoc, List.nil_append,
        List.cons_append]
      rfl
    | field =>
      show flagSetParts d.fieldFlags ++ [d.constraints.forget] = _
      rw [parts_flagSet]
      simp only [task, aggregate?, Option.elim, List.append_assoc, List.nil_append,
        List.cons_append]
      rfl
    | flag => rfl
  | choice home site c =>
    have hc : c.body.flatMap (fun i => i.element.inner.flatMap Inner.parts) =
        partsOf (c.body.map fun i => i.element.held?) := by
      unfold partsOf
      rw [List.flatMap_map]
      exact List.flatMap_congr fun i _ => parts_element i.element
    refine hc.trans ?_
    exact (List.append_nil _).symm
  | group g =>
    show g.inner.flatMap Inner.parts = _
    rw [parts_group]
    exact (List.append_nil _).symm

theorem mem_partsOf {os : List (Option Occupant)} {p : Part Unit} :
    p ∈ partsOf os ↔ ∃ y, some y ∈ os ∧ p ∈ y.parts := by
  unfold partsOf
  rw [List.mem_flatMap]
  constructor
  · rintro ⟨o, ho, hp⟩
    cases o with
    | none => exact absurd hp List.not_mem_nil
    | some y => exact ⟨y, ho, hp⟩
  · rintro ⟨y, hy, hp⟩
    exact ⟨some y, hy, hp⟩

theorem mem_task {x : Occupant} {r : Role} {p : Part Unit} :
    p ∈ x.task r ↔ ∃ a, x.aggregate? r = some a ∧ a.task = p := by
  unfold task
  cases x.aggregate? r with
  | none => simp
  | some a => simp [eq_comm]

theorem mem_parts_iff_step {x : Occupant} {p : Part Unit} :
    p ∈ x.parts ↔ (∃ r a, x.aggregate? r = some a ∧ a.task = p) ∨
      ∃ y, x.Holds y ∧ p ∈ y.parts := by
  rw [parts_eq]
  simp only [List.mem_append, mem_task, mem_partsOf]
  constructor
  · rintro (((((h | ⟨y, hy, hp⟩) | h) | h) | ⟨y, hy, hp⟩) | h)
    · exact .inl ⟨_, h⟩
    · exact .inr ⟨y, .inl hy, hp⟩
    · exact .inl ⟨_, h⟩
    · exact .inl ⟨_, h⟩
    · exact .inr ⟨y, .inr hy, hp⟩
    · exact .inl ⟨_, h⟩
  · rintro (⟨r, h⟩ | ⟨y, hy | hy, hp⟩)
    · cases r <;> simp [h]
    · exact .inl (.inl (.inl (.inl (.inr ⟨y, hy, hp⟩))))
    · exact .inl (.inr ⟨y, hy, hp⟩)

/-- The parts of an occupant are those of all occupants that stand in it at any depth. -/
theorem mem_parts_iff {x : Occupant} {p : Part Unit} :
    p ∈ x.parts ↔ ∃ y, Relation.ReflTransGen Holds x y ∧
      ∃ r a, y.aggregate? r = some a ∧ a.task = p := by
  constructor
  · intro h
    induction x using induct with
    | step x ih =>
      rcases mem_parts_iff_step.mp h with h | ⟨y, hy, hp⟩
      · exact ⟨x, .refl, h⟩
      · obtain ⟨z, hz, ha⟩ := ih y hy hp
        exact ⟨z, .head hy hz, ha⟩
  · rintro ⟨y, hy, ha⟩
    induction hy using Relation.ReflTransGen.head_induction_on with
    | refl => exact mem_parts_iff_step.mpr (.inl ha)
    | head hx _ ih => exact mem_parts_iff_step.mpr (.inr ⟨_, hx, ih⟩)

end Occupant

end InfoModel

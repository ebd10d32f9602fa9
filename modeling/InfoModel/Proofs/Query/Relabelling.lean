import InfoModel.Proofs.Query.Basic

/-!
# Queries under other labels

Under other labels the same stands in a module, and every query gives the same, with the labels
changed in what it gives. Modules that differ in their labels only therefore answer alike. Main
statements: `Query.answer_relabel`, `Store.answersAlike`.
-/

namespace InfoModel

variable (r : Relabelling)

/-! ### Parts -/

namespace Aggregate

def relabel : Aggregate → Aggregate
  | .assemblyFlags d => .assemblyFlags (d.relabel r)
  | .fieldFlags d => .fieldFlags (d.relabel r)
  | .model d => .model (d.relabel r)
  | .constraints k d => .constraints k (d.relabel r)
  | .alternatives g => .alternatives (g.relabel r)

def restate : (a : Aggregate) → a.Content → (a.relabel r).Content
  | .assemblyFlags _, s => s.relabel r
  | .fieldFlags _, s => s.relabel r
  | .model _, m => m.relabel r
  | .constraints .., c => c
  | .alternatives _, as => as.relabel r

theorem restates_part (a : Aggregate) :
    Traced.Restates (a.restate r) a.part.build (a.relabel r).part.build := by
  cases a with
  | assemblyFlags d => exact FlagSet.restates_relabel r d.owner d.decl.jsonKey d.decl.flags
  | fieldFlags d => exact d.restates_buildFieldFlags r
  | model d => exact d.restates_buildModel r
  | constraints k d =>
    refine (d.outcome_buildConstraints_relabel r).trans ?_
    show (Placed.buildConstraints k d).outcome = (Placed.buildConstraints k d).outcome.map id
    cases (Placed.buildConstraints k d).outcome with
    | ok c => rfl
    | error e => rfl
  | alternatives g => exact g.restates_buildAlternatives r

end Aggregate

/-! ### What stands in a module -/

namespace Occupant

def relabel : Occupant → Occupant
  | .definition k d => .definition k (d.relabel r)
  | .choice home site c =>
    .choice (home.relabel r) site { c with body := c.body.map (NamedInstance.relabel r) }
  | .group g => .group (g.relabel r)

theorem held?_instance_relabel {k : Kind} (i : Instance k) :
    (i.relabel r).held? = i.held?.map (relabel r) := by
  have hi : (i.relabel r).isInline = i.isInline := rfl
  unfold Instance.held?
  rw [hi]
  split <;> rfl

theorem held?_element_relabel (e : Element) : (e.relabel r).held? = e.held?.map (relabel r) := by
  cases e with
  | assembly i => exact held?_instance_relabel r i
  | field i => exact held?_instance_relabel r i

theorem held?_named_relabel (i : NamedInstance) :
    (i.relabel r).element.held? = i.element.held?.map (relabel r) := by
  rw [NamedInstance.element_revise]
  exact held?_element_relabel r i.element

theorem held_flagSet_relabel (s : FlagSet) :
    (s.relabel r).held = s.held.map (Option.map (relabel r)) := by
  unfold FlagSet.held FlagSet.relabel FlagSet.revise
  rw [List.map_map, List.map_map]
  exact List.map_congr_left fun i _ => held?_instance_relabel r i.base

theorem held_model_relabel (home : Module) (site : Site) (m : Model) :
    (m.relabel r).held (home.relabel r) site = (m.held home site).map (Option.map (relabel r)) := by
  have hi : ∀ (i : ModelInstance) (site : Site),
      (i.relabel r).held? (home.relabel r) site = (i.held? home site).map (relabel r) := by
    intro i site
    cases i with
    | named j => exact held?_named_relabel r j
    | choice c => rfl
    | group g => rfl
  unfold Model.held Model.relabel Model.revise
  refine List.ext_getElem ?_ ?_
  · simp only [List.length_mapIdx, List.length_map]
  · intro n h₁ h₂
    simp only [List.getElem_mapIdx, List.getElem_map]
    exact hi _ _

theorem held_alternatives_relabel (as : Alternatives) :
    ((as.relabel r).instances.map fun a => a.element.held?) =
      (as.instances.map fun a => a.element.held?).map (Option.map (relabel r)) := by
  unfold Alternatives.relabel Alternatives.revise
  rw [List.map_map, List.map_map]
  exact List.map_congr_left fun a _ => held?_element_relabel r a.element

theorem elim_relabel {p q : Part α} {f : α → α} (h : Traced.Restates f p.build q.build)
    {held held' : α → List (Option Occupant)}
    (hh : ∀ a, held' (f a) = (held a).map (Option.map (relabel r))) :
    q.content?.elim [] held' = (p.content?.elim [] held).map (Option.map (relabel r)) := by
  rw [Part.content?_of_restates h]
  cases p.content? with
  | none => rfl
  | some a => exact hh a

theorem flags_relabel (x : Occupant) :
    (x.relabel r).flags = x.flags.map (Option.map (relabel r)) := by
  cases x with
  | definition k d =>
    cases k with
    | assembly =>
      exact elim_relabel r (FlagSet.restates_relabel r d.owner d.decl.jsonKey d.decl.flags)
        (held_flagSet_relabel r)
    | field => exact elim_relabel r (d.restates_buildFieldFlags r) (held_flagSet_relabel r)
    | flag => rfl
  | choice home site c => rfl
  | group g => rfl

theorem children_relabel (x : Occupant) :
    (x.relabel r).children = x.children.map (Option.map (relabel r)) := by
  cases x with
  | definition k d =>
    cases k with
    | assembly =>
      exact elim_relabel r (d.restates_buildModel r) (held_model_relabel r d.home d.site)
    | field => rfl
    | flag => rfl
  | choice home site c =>
    show (c.body.map (NamedInstance.relabel r)).map _ = (c.body.map _).map _
    rw [List.map_map, List.map_map]
    exact List.map_congr_left fun i _ => held?_named_relabel r i
  | group g =>
    exact elim_relabel r (g.restates_buildAlternatives r) (held_alternatives_relabel r)

theorem aggregate?_relabel (x : Occupant) (role : Role) :
    (x.relabel r).aggregate? role = (x.aggregate? role).map (Aggregate.relabel r) := by
  cases x with
  | definition k d => (cases k <;> cases role) <;> rfl
  | choice home site c => rfl
  | group g => (cases role) <;> rfl

theorem mem_map_relabel {os : List (Option Occupant)} {z : Occupant} :
    some z ∈ os.map (Option.map (relabel r)) ↔ ∃ y, some y ∈ os ∧ y.relabel r = z := by
  rw [List.mem_map]
  constructor
  · rintro ⟨o, ho, hz⟩
    obtain ⟨y, rfl, hy⟩ := Option.map_eq_some_iff.mp hz
    exact ⟨y, ho, hy⟩
  · rintro ⟨y, hy, rfl⟩
    exact ⟨some y, hy, rfl⟩

theorem holds_relabel_iff {x z : Occupant} :
    (x.relabel r).Holds z ↔ ∃ y, x.Holds y ∧ y.relabel r = z := by
  unfold Holds
  rw [flags_relabel, children_relabel, mem_map_relabel, mem_map_relabel]
  constructor
  · rintro (⟨y, hy, hz⟩ | ⟨y, hy, hz⟩)
    · exact ⟨y, .inl hy, hz⟩
    · exact ⟨y, .inr hy, hz⟩
  · rintro ⟨y, hy | hy, hz⟩
    · exact .inl ⟨y, hy, hz⟩
    · exact .inr ⟨y, hy, hz⟩

end Occupant

namespace Module
variable {m : Module}

theorem reached_relabel_iff {z : Occupant} :
    (m.relabel r).Reached z ↔ ∃ x, m.Reached x ∧ x.relabel r = z := by
  constructor
  · intro h
    induction h using Reached.induct with
    | own k d hd =>
      rw [own_revise] at hd
      obtain ⟨d', hd', rfl⟩ := List.mem_map.mp hd
      exact ⟨.definition k d', .of_own hd', rfl⟩
    | step z z' hz hz' ih =>
      obtain ⟨x, hx, rfl⟩ := ih
      obtain ⟨y, hy, rfl⟩ := (Occupant.holds_relabel_iff r).mp hz'
      exact ⟨y, hx.step hy, rfl⟩
  · rintro ⟨x, hx, rfl⟩
    induction hx using Reached.induct with
    | own k d hd =>
      have hd' : d.relabel r ∈ (m.relabel r).own k := by
        rw [own_revise]
        exact List.mem_map_of_mem hd
      exact .of_own hd'
    | step x y hx hy ih => exact ih.step ((Occupant.holds_relabel_iff r).mpr ⟨y, hy, rfl⟩)

theorem has_relabel_iff {b : Aggregate} :
    (m.relabel r).Has b ↔ ∃ a, m.Has a ∧ a.relabel r = b := by
  unfold Has
  constructor
  · rintro ⟨z, role, hz, hb⟩
    obtain ⟨x, hx, rfl⟩ := (reached_relabel_iff r).mp hz
    rw [Occupant.aggregate?_relabel, Option.map_eq_some_iff] at hb
    obtain ⟨a, ha, rfl⟩ := hb
    exact ⟨a, ⟨x, role, hx, ha⟩, rfl⟩
  · rintro ⟨a, ⟨x, role, hx, ha⟩, rfl⟩
    refine ⟨x.relabel r, role, (reached_relabel_iff r).mpr ⟨x, hx, rfl⟩, ?_⟩
    rw [Occupant.aggregate?_relabel, ha]
    rfl

end Module

/-! ### Queries -/

namespace Query

def relabel : Query → Query
  | .aggregate a => .aggregate (a.relabel r)
  | .assemblyKeyFlag d => .assemblyKeyFlag (d.relabel r)
  | .fieldKeyFlag d => .fieldKeyFlag (d.relabel r)
  | .valueKeyFlag d => .valueKeyFlag (d.relabel r)
  | .resolveDefinition k d => .resolveDefinition k (d.relabel r)
  | .resolveModule m => .resolveModule (m.relabel r)
  | .exported m k => .exported (m.relabel r) k
  | .findExported m k name => .findExported (m.relabel r) k name
  | .findVisible m k name => .findVisible (m.relabel r) k name
  | .resolveReference m k reference containing =>
    .resolveReference (m.relabel r) k reference containing

def restate : (q : Query) → q.Answer → (q.relabel r).Answer
  | .aggregate a, c => a.restate r c
  | .assemblyKeyFlag _, i => i.map (FlagInstance.relabel r)
  | .fieldKeyFlag _, i => i.map (FlagInstance.relabel r)
  | .valueKeyFlag _, i => i.map (FlagInstance.relabel r)
  | .resolveDefinition .., u => u
  | .resolveModule _, u => u
  | .exported .., ds => ds.map (Placed.relabel r)
  | .findExported .., d => d.map (Placed.relabel r)
  | .findVisible .., d => d.map (Placed.relabel r)
  | .resolveReference .., d => d.relabel r

theorem outcome_map_relabel {p q : Part FlagSet}
    (h : Traced.Restates (FlagSet.relabel r) p.build q.build)
    {find find' : FlagSet → Option FlagInstance}
    (hf : ∀ s : FlagSet, find' (s.relabel r) = (find s).map (FlagInstance.relabel r)) :
    (q.map find').build.outcome =
      (p.map find).build.outcome.map (Option.map (FlagInstance.relabel r)) := by
  unfold Part.map
  rw [← bind_pure_comp, ← bind_pure_comp, Traced.outcome_bind, Traced.outcome_bind, h]
  cases p.build.outcome with
  | error e => rfl
  | ok s => exact congrArg Except.ok (hf s)

theorem jsonKeyFlag?_relabel (s : FlagSet) :
    (s.relabel r).jsonKeyFlag? = s.jsonKeyFlag?.map (FlagInstance.relabel r) := by
  show s.jsonKey.bind (s.relabel r).flag? = (s.jsonKey.bind s.flag?).map _
  cases s.jsonKey with
  | none => rfl
  | some key => exact s.flag?_revise r.revision key

theorem valueKeyFlag?_relabel (d : FieldDefinition) (s : FlagSet) :
    d.valueKeyFlag? (s.relabel r) = (d.valueKeyFlag? s).map (FlagInstance.relabel r) := by
  unfold FieldDefinition.valueKeyFlag?
  cases d.decl.jsonValueKeyFlag with
  | none => rfl
  | some key => exact s.flag?_revise r.revision key

theorem outcomes_parts_relabel {k : Kind} (d : Placed k) :
    outcomes (Placed.parts k (d.relabel r)) = outcomes (Placed.parts k d) := by
  cases k with
  | assembly => exact d.outcomes_assemblyParts_relabel r
  | field => exact d.outcomes_fieldParts_relabel r
  | flag => exact d.outcomes_flagParts_relabel r

theorem map_unit (x : Except ModelFault Unit) : x = x.map fun u => u := by
  cases x with
  | ok u => rfl
  | error e => rfl

/-- Every query gives the same under other labels, with these labels in what it gives. -/
theorem answer_relabel (q : Query) : (q.relabel r).answer = q.answer.map (q.restate r) := by
  cases q with
  | aggregate a => exact a.restates_part r
  | assemblyKeyFlag d =>
    exact outcome_map_relabel r (FlagSet.restates_relabel r d.owner d.decl.jsonKey d.decl.flags)
      (jsonKeyFlag?_relabel r)
  | fieldKeyFlag d =>
    exact outcome_map_relabel r (d.restates_buildFieldFlags r) (jsonKeyFlag?_relabel r)
  | valueKeyFlag d =>
    exact outcome_map_relabel r (d.restates_buildFieldFlags r)
      (valueKeyFlag?_relabel r d.definition)
  | resolveDefinition k d =>
    refine Eq.trans ?_ (map_unit _)
    exact congrArg Store.firstFault (outcomes_parts_relabel r d)
  | resolveModule m =>
    refine Eq.trans ?_ (map_unit _)
    exact congrArg Store.firstFault (m.outcomes_relabel r)
  | exported m k =>
    refine congrArg Except.ok ?_
    show ((m.relabel r).exports k).values = (m.exports k).values.map _
    rw [Module.exports_revise]
    exact NamedMap.values_mapValues _ _
  | findExported m k name => exact congrArg Except.ok (m.exported?_revise r.revision k name)
  | findVisible m k name => exact congrArg Except.ok (m.visible?_revise r.revision k name)
  | resolveReference m k reference containing =>
    exact m.restates_resolve r.revision k reference containing

theorem of_relabel_iff {m : Module} {q' : Query} :
    q'.Of (m.relabel r) ↔ ∃ q : Query, q.Of m ∧ q.relabel r = q' := by
  constructor
  · intro h
    cases q' with
    | aggregate b =>
      obtain ⟨a, ha, rfl⟩ := (Module.has_relabel_iff r).mp h
      exact ⟨.aggregate a, ha, rfl⟩
    | assemblyKeyFlag d' =>
      -- the part that the flag is found in is under other labels one of the same kind
      obtain ⟨a, ha, had⟩ := (Module.has_relabel_iff r).mp h
      cases a <;> cases had
      exact ⟨.assemblyKeyFlag _, ha, rfl⟩
    | fieldKeyFlag d' =>
      obtain ⟨a, ha, had⟩ := (Module.has_relabel_iff r).mp h
      cases a <;> cases had
      exact ⟨.fieldKeyFlag _, ha, rfl⟩
    | valueKeyFlag d' =>
      obtain ⟨a, ha, had⟩ := (Module.has_relabel_iff r).mp h
      cases a <;> cases had
      exact ⟨.valueKeyFlag _, ha, rfl⟩
    | resolveDefinition k d' =>
      obtain ⟨x, hx, hxd⟩ := (Module.reached_relabel_iff r).mp h
      cases x <;> cases hxd
      exact ⟨.resolveDefinition k _, hx, rfl⟩
    | resolveModule n =>
      cases h
      exact ⟨.resolveModule m, rfl, rfl⟩
    | exported n k =>
      cases h
      exact ⟨.exported m k, rfl, rfl⟩
    | findExported n k name =>
      cases h
      exact ⟨.findExported m k name, rfl, rfl⟩
    | findVisible n k name =>
      cases h
      exact ⟨.findVisible m k name, rfl, rfl⟩
    | resolveReference n k reference containing =>
      cases h
      exact ⟨.resolveReference m k reference containing, rfl, rfl⟩
  · rintro ⟨q, hq, rfl⟩
    cases q with
    | aggregate a => exact (Module.has_relabel_iff r).mpr ⟨a, hq, rfl⟩
    | assemblyKeyFlag d => exact (Module.has_relabel_iff r).mpr ⟨.assemblyFlags d, hq, rfl⟩
    | fieldKeyFlag d => exact (Module.has_relabel_iff r).mpr ⟨.fieldFlags d, hq, rfl⟩
    | valueKeyFlag d => exact (Module.has_relabel_iff r).mpr ⟨.fieldFlags d, hq, rfl⟩
    | resolveDefinition k d => exact (Module.reached_relabel_iff r).mpr ⟨.definition k d, hq, rfl⟩
    | resolveModule n => exact congrArg (Module.relabel r) hq
    | exported n k => exact congrArg (Module.relabel r) hq
    | findExported n k name => exact congrArg (Module.relabel r) hq
    | findVisible n k name => exact congrArg (Module.relabel r) hq
    | resolveReference n k reference containing => exact congrArg (Module.relabel r) hq

def reply (q : Query) (outcome : Except ModelFault q.Answer) :
    (q : Query) × Except ModelFault q.Answer :=
  ⟨q.relabel r, outcome.map (q.restate r)⟩

theorem reply_answer (q : Query) : q.reply r q.answer = ⟨q.relabel r, (q.relabel r).answer⟩ := by
  unfold reply
  rw [answer_relabel]

/-- The query is about the module, about a module below it, or about something that stands there. -/
def Within (m : Module) (q : Query) : Prop := ∃ b, m.Spans b ∧ q.Of b

end Query

/-! ### Graphs of modules -/

namespace Module

theorem spans_relabel_iff {m c : Module} :
    (m.relabel r).Spans c ↔ ∃ b, m.Spans b ∧ b.relabel r = c := by
  constructor
  · intro h
    induction h with
    | refl => exact ⟨m, .self m, rfl⟩
    | @tail _ c _ hi ih =>
      obtain ⟨b, hb, rfl⟩ := ih
      have hc : c ∈ (b.relabel r).imports := hi
      rw [imports_revise] at hc
      obtain ⟨i, hbi, rfl⟩ := List.mem_map.mp hc
      exact ⟨i, hb.tail hbi, rfl⟩
  · rintro ⟨b, hb, rfl⟩
    induction hb with
    | refl => exact .self _
    | @tail b i _ hi ih =>
      refine ih.tail ?_
      show i.relabel r ∈ (b.relabel r).imports
      rw [imports_revise]
      exact List.mem_map_of_mem hi

theorem relabel_relabel {r r' r'' : Relabelling} (h : ∀ i, r.change (r'.change i) = r''.change i)
    (m : Module) : (m.relabel r').relabel r = m.relabel r'' := by
  induction m using induct with
  | step m ih =>
    have himports :
        ((m.imports.map (relabel r')).map (relabel r)) = m.imports.map (relabel r'') := by
      rw [List.map_map]
      exact List.map_congr_left fun i hi => ih i hi
    obtain ⟨info, imports⟩ := m
    show Module.mk (r.change (r'.change info))
        (reviseAll r.revision (reviseAll r'.revision imports)) =
      Module.mk (r''.change info) (reviseAll r''.revision imports)
    rw [h, reviseAll_eq_map, reviseAll_eq_map, reviseAll_eq_map]
    exact congrArg (Module.mk _) himports

end Module

theorem Query.within_relabel_iff {m : Module} {q' : Query} :
    q'.Within (m.relabel r) ↔ ∃ q : Query, q.Within m ∧ q.relabel r = q' := by
  constructor
  · rintro ⟨c, hc, hq'⟩
    obtain ⟨b, hb, rfl⟩ := (Module.spans_relabel_iff r).mp hc
    obtain ⟨q, hq, rfl⟩ := (of_relabel_iff r).mp hq'
    exact ⟨q, ⟨b, hb, hq⟩, rfl⟩
  · rintro ⟨q, ⟨b, hb, hq⟩, rfl⟩
    exact ⟨b.relabel r, (Module.spans_relabel_iff r).mpr ⟨b, hb, rfl⟩,
      (of_relabel_iff r).mpr ⟨q, hq, rfl⟩⟩

/-- Labels aside, the same can be asked of two modules and of all below them, each in its store, and
whatever was asked before, the same queries give the same. -/
structure Store.AnswersAlike (m : Module) (s : Store) (n : Module) (t : Store) : Prop where
  forth : ∀ q : Query, q.Within m → ∃ q' : Query, q'.Within n ∧ q'.relabel r = q.relabel r
  back : ∀ q' : Query, q'.Within n → ∃ q : Query, q.Within m ∧ q.relabel r = q'.relabel r
  answers : ∀ q q' : Query, q.Within m → q'.Within n → q.relabel r = q'.relabel r →
    ∀ earlier earlier' : List Query,
      q.reply r (q.request (s.after earlier)).1 = q'.reply r (q'.request (t.after earlier')).1

theorem Query.reply_request {m : Module} {s : Store} (hs : ∀ b, m.Spans b → s.Clear b.id)
    {q : Query} (hq : q.Within m) (earlier : List Query) :
    q.reply r (q.request (s.after earlier)).1 = ⟨q.relabel r, (q.relabel r).answer⟩ := by
  obtain ⟨b, hb, hq⟩ := hq
  have hc : s.Clear q.home.id := hq.home.symm ▸ hs b hb
  have hafter : ∀ n, s.Clear n → (s.after earlier).Clear n :=
    Store.law_clear.after (fun _ _ => trivial) s
  rw [fst_request (hafter _ hc), reply_answer]

/-- Modules that are the same but for their labels answer alike. -/
theorem Store.answersAlike {m n : Module} {s t : Store} (h : m.relabel r = n.relabel r)
    (hs : ∀ b, m.Spans b → s.Clear b.id) (ht : ∀ b, n.Spans b → t.Clear b.id) :
    AnswersAlike r m s n t := by
  refine ⟨?_, ?_, ?_⟩
  · intro q hq
    have hr : (q.relabel r).Within (m.relabel r) := (Query.within_relabel_iff r).mpr ⟨q, hq, rfl⟩
    rw [h] at hr
    exact (Query.within_relabel_iff r).mp hr
  · intro q' hq'
    have hr : (q'.relabel r).Within (n.relabel r) := (Query.within_relabel_iff r).mpr ⟨q', hq', rfl⟩
    rw [← h] at hr
    exact (Query.within_relabel_iff r).mp hr
  · intro q q' hq hq' hqq earlier earlier'
    rw [Query.reply_request r hs hq, Query.reply_request r ht hq', hqq]

end InfoModel

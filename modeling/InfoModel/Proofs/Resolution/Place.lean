import InfoModel.Proofs.Module.Graph
import InfoModel.Proofs.Resolution.Occupant

/-!
# Places tell occupants apart

What stands in a module stands at places that are counted from each other: the places of flags and
children from that of the definition, choice or group around them. Hence no two things that stand in
one module stand at the same place, and no two of their parts have the same slot. Main statements:
`Module.Reached.eq_of_site`, `Module.Has.eq_of_slot`.
-/

namespace InfoModel

/-! ### Siblings -/

/-- An element that was collected was made behind as many others as stand before it. -/
theorem Traced.getElem?_collect {σ ε α β : Type} {make : List β → α → Traced σ ε β} {as : List α}
    {made bs : List β} (h : (collect make made as).outcome = .ok bs) {n : Nat} {b : β}
    (hb : bs[n]? = some b) :
    made[n]? = some b ∨ ∃ earlier a, earlier.length = n ∧ (make earlier a).outcome = .ok b := by
  induction as generalizing made with
  | nil =>
    cases h
    exact .inl hb
  | cons a as ih =>
    obtain ⟨c, hc, h⟩ := outcome_bind_eq_ok_iff.mp h
    rcases ih h with hn | hn
    · rcases Nat.lt_trichotomy n made.length with hlt | rfl | hgt
      · rw [List.getElem?_append_left hlt] at hn
        exact .inl hn
      · rw [List.getElem?_concat_length] at hn
        cases hn
        exact .inr ⟨made, a, rfl, hc⟩
      · have hlen : (made ++ [c]).length ≤ n := by
          rw [List.length_append, List.length_singleton]
          exact hgt
        rw [List.getElem?_eq_none hlen] at hn
        contradiction
    · exact .inr hn

theorem Traced.of_getElem?_collect {σ ε α β : Type} {make : List β → α → Traced σ ε β}
    {as : List α} {bs : List β} (h : (collect make [] as).outcome = .ok bs) {n : Nat} {b : β}
    (hb : bs[n]? = some b) :
    ∃ earlier a, earlier.length = n ∧ (make earlier a).outcome = .ok b := by
  rcases getElem?_collect h hb with hn | hn
  · exact absurd hn (by simp)
  · exact hn

/-! ### Places of held definitions -/

/-- Every occupant that is given stands in the module at the place. -/
def StandsAt (m : Module) (site : Site) (o : Option Occupant) : Prop :=
  ∀ y, o = some y → y.home = m ∧ y.site = site

theorem Instance.held_of_build {k : Kind} {owner : Owner} {site : Site} {position : Nat}
    {origin : OriginDecl k.Decl} {i : Instance k}
    (h : (Instance.build k owner site position origin).outcome = .ok i) :
    StandsAt owner.home site i.held? := by
  intro y hy
  unfold held? at hy
  split at hy
  · rename_i hi
    cases hy
    cases origin with
    | reference r =>
      obtain ⟨d, -, h⟩ := Traced.outcome_bind_eq_ok_iff.mp h
      obtain ⟨name, -, h⟩ := Traced.outcome_bind_eq_ok_iff.mp h
      cases h
      exact absurd hi (by simp [isInline])
    | inline decl =>
      obtain ⟨d, -, h⟩ := Traced.outcome_bind_eq_ok_iff.mp h
      obtain ⟨name, -, h⟩ := Traced.outcome_bind_eq_ok_iff.mp h
      cases h
      exact ⟨rfl, rfl⟩
  · contradiction

theorem FlagInstance.held_of_build {owner : Owner} {earlier : List FlagInstance}
    {d : FlagChildDecl} {i : FlagInstance}
    (h : (FlagInstance.build owner earlier d).outcome = .ok i) :
    StandsAt owner.home (.flag owner.site earlier.length) i.base.held? := by
  obtain ⟨base, hb, h⟩ := Traced.outcome_bind_eq_ok_iff.mp h
  obtain ⟨ownDefault, -, h⟩ := Traced.outcome_bind_eq_ok_iff.mp h
  obtain ⟨-, -, h⟩ := Traced.outcome_bind_eq_ok_iff.mp h
  cases h
  exact Instance.held_of_build hb

theorem NamedInstance.held_of_build {owner : Owner} {site : Site} {earlier : List NamedInstance}
    {d : NamedChildDecl} {i : NamedInstance}
    (h : (NamedInstance.build owner site earlier d).outcome = .ok i) :
    StandsAt owner.home site i.element.held? := by
  obtain ⟨j, hj, h⟩ := Traced.outcome_bind_eq_ok_iff.mp h
  obtain ⟨-, -, h⟩ := Traced.outcome_bind_eq_ok_iff.mp h
  cases h
  cases d with
  | assembly use origin =>
    obtain ⟨base, hb, hj⟩ := Traced.outcome_bind_eq_ok_iff.mp hj
    obtain ⟨occurrence, -, hj⟩ := Traced.outcome_bind_eq_ok_iff.mp hj
    cases hj
    exact Instance.held_of_build hb
  | field use inXml origin =>
    obtain ⟨base, hb, hj⟩ := Traced.outcome_bind_eq_ok_iff.mp hj
    obtain ⟨default, -, hj⟩ := Traced.outcome_bind_eq_ok_iff.mp hj
    obtain ⟨occurrence, -, hj⟩ := Traced.outcome_bind_eq_ok_iff.mp hj
    cases hj
    exact Instance.held_of_build hb

theorem Alternative.held_of_build {owner : Owner} {jsonKey : Option String}
    {earlier : List Alternative} {d : AlternativeDecl} {a : Alternative}
    (h : (Alternative.build owner jsonKey earlier d).outcome = .ok a) :
    StandsAt owner.home (.child owner.site earlier.length) a.element.held? := by
  obtain ⟨j, hj, h⟩ := Traced.outcome_bind_eq_ok_iff.mp h
  obtain ⟨-, -, h⟩ := Traced.outcome_bind_eq_ok_iff.mp h
  cases h
  cases d with
  | assembly discriminator origin =>
    obtain ⟨base, hb, hj⟩ := Traced.outcome_bind_eq_ok_iff.mp hj
    cases hj
    exact Instance.held_of_build hb
  | field discriminator origin =>
    obtain ⟨base, hb, hj⟩ := Traced.outcome_bind_eq_ok_iff.mp hj
    cases hj
    exact Instance.held_of_build hb

theorem ModelInstance.held_of_build {owner : Owner} {earlier : List ModelInstance}
    {d : ModelChildDecl} {i : ModelInstance}
    (h : (ModelInstance.build owner earlier d).outcome = .ok i) :
    StandsAt owner.home (.child owner.site earlier.length)
      (i.held? owner.home (.child owner.site earlier.length)) := by
  cases d with
  | named child =>
    obtain ⟨j, hj, h⟩ := Traced.outcome_bind_eq_ok_iff.mp h
    cases h
    exact NamedInstance.held_of_build hj
  | choice children =>
    obtain ⟨body, -, h⟩ := Traced.outcome_bind_eq_ok_iff.mp h
    cases h
    intro y hy
    cases hy
    exact ⟨rfl, rfl⟩
  | group head alternatives =>
    obtain ⟨g, hg, h⟩ := Traced.outcome_bind_eq_ok_iff.mp h
    cases h
    obtain ⟨occurrence, -, hg⟩ := Traced.outcome_bind_eq_ok_iff.mp hg
    obtain ⟨-, -, hg⟩ := Traced.outcome_bind_eq_ok_iff.mp hg
    cases hg
    intro y hy
    cases hy
    exact ⟨rfl, rfl⟩

theorem Placed.instances_of_buildModel {d : Placed .assembly} {m : Model}
    (h : d.buildModel.outcome = .ok m) :
    (Traced.collect (ModelInstance.build d.owner) [] d.decl.model).outcome = .ok m.instances := by
  obtain ⟨instances, hc, h⟩ := Traced.outcome_bind_eq_ok_iff.mp h
  obtain ⟨-, -, h⟩ := Traced.outcome_bind_eq_ok_iff.mp h
  cases h
  exact hc

theorem ChoiceGroup.instances_of_buildAlternatives {g : ChoiceGroup} {as : Alternatives}
    (h : g.buildAlternatives.outcome = .ok as) :
    (Traced.collect (Alternative.build g.owner g.head.jsonKey) [] g.alternatives).outcome =
      .ok as.instances := by
  obtain ⟨instances, hc, h⟩ := Traced.outcome_bind_eq_ok_iff.mp h
  obtain ⟨-, -, h⟩ := Traced.outcome_bind_eq_ok_iff.mp h
  cases h
  exact hc

/-! ### Seats -/

namespace Occupant

/-- What stands directly in an occupant stands at the places counted from its own. -/
structure Seated (x : Occupant) : Prop where
  flags : ∀ n o, x.flags[n]? = some o → StandsAt x.home (.flag x.site n) o
  children : ∀ n o, x.children[n]? = some o → StandsAt x.home (.child x.site n) o

variable {x y z : Occupant} {m : Module}

theorem getElem?_elim {p : Part α} {f : α → List β} {n : Nat} {b : β}
    (h : (p.content?.elim [] f)[n]? = some b) :
    ∃ a, p.build.outcome = .ok a ∧ (f a)[n]? = some b := by
  cases hp : p.content? with
  | none =>
    rw [hp] at h
    exact absurd h (by simp)
  | some a =>
    rw [hp] at h
    exact ⟨a, Part.content?_eq_some_iff.mp hp, h⟩

theorem standsAt_flags {owner : Owner} {jsonKey : Option String} {children : List FlagChildDecl}
    {s : FlagSet} (h : (FlagSet.build owner jsonKey children).outcome = .ok s) {n : Nat}
    {o : Option Occupant} (ho : s.held[n]? = some o) :
    StandsAt owner.home (.flag owner.site n) o := by
  unfold FlagSet.held at ho
  rw [List.getElem?_map, Option.map_eq_some_iff] at ho
  obtain ⟨i, hi, rfl⟩ := ho
  obtain ⟨earlier, d, rfl, hb⟩ := Traced.of_getElem?_collect (FlagSet.instances_of_build h) hi
  exact FlagInstance.held_of_build hb

theorem seated_definition (k : Kind) (d : Placed k) : (definition k d).Seated := by
  cases k with
  | assembly =>
    refine ⟨?_, ?_⟩
    · intro n o ho
      obtain ⟨s, hs, ho⟩ := getElem?_elim ho
      exact standsAt_flags hs ho
    · intro n o ho
      obtain ⟨m, hm, ho⟩ := getElem?_elim ho
      unfold Model.held at ho
      rw [List.getElem?_mapIdx, Option.map_eq_some_iff] at ho
      obtain ⟨i, hi, rfl⟩ := ho
      obtain ⟨earlier, c, rfl, hb⟩ :=
        Traced.of_getElem?_collect (Placed.instances_of_buildModel hm) hi
      exact ModelInstance.held_of_build hb
  | field =>
    refine ⟨?_, fun n o ho => absurd ho (by simp [children])⟩
    intro n o ho
    obtain ⟨s, hs, ho⟩ := getElem?_elim ho
    exact standsAt_flags (Placed.build_of_buildFieldFlags hs) ho
  | flag =>
    exact ⟨fun n o ho => absurd ho (by simp [flags]), fun n o ho => absurd ho (by simp [children])⟩

theorem seated_group (g : ChoiceGroup) : (group g).Seated := by
  refine ⟨fun n o ho => absurd ho (by simp [flags]), ?_⟩
  intro n o ho
  obtain ⟨as, has, ho⟩ := getElem?_elim ho
  rw [List.getElem?_map, Option.map_eq_some_iff] at ho
  obtain ⟨a, ha, rfl⟩ := ho
  obtain ⟨earlier, c, rfl, hb⟩ :=
    Traced.of_getElem?_collect (ChoiceGroup.instances_of_buildAlternatives has) ha
  exact Alternative.held_of_build hb

theorem seated_choice {owner : Owner} {earlier : List ModelInstance} {d : ModelChildDecl}
    {c : Choice} (h : (ModelInstance.build owner earlier d).outcome = .ok (.choice c)) :
    (choice owner.home (.child owner.site earlier.length) c).Seated := by
  refine ⟨fun n o ho => absurd ho (by simp [flags]), ?_⟩
  intro n o ho
  cases d with
  | named child =>
    obtain ⟨j, -, h⟩ := Traced.outcome_bind_eq_ok_iff.mp h
    cases h
  | choice decls =>
    obtain ⟨body, hb, h⟩ := Traced.outcome_bind_eq_ok_iff.mp h
    cases h
    unfold Occupant.children at ho
    rw [List.getElem?_map, Option.map_eq_some_iff] at ho
    obtain ⟨i, hi, rfl⟩ := ho
    obtain ⟨made, child, rfl, hc⟩ := Traced.of_getElem?_collect hb hi
    exact NamedInstance.held_of_build hc
  | group head alternatives =>
    obtain ⟨g, -, h⟩ := Traced.outcome_bind_eq_ok_iff.mp h
    cases h

theorem held?_element_ne_choice {home : Module} {site : Site} {c : Choice} (e : Element) :
    e.held? ≠ some (.choice home site c) := by
  intro he
  rcases of_held?_element he with ⟨a, ha, -⟩ | ⟨f, hf⟩
  · cases ha
  · cases hf

theorem choice_not_mem_flags {home : Module} {site : Site} {c : Choice} :
    some (.choice home site c) ∉ x.flags := by
  have hheld : ∀ p : Part FlagSet,
      some (.choice home site c) ∉ p.content?.elim [] FlagSet.held := by
    intro p hp
    obtain ⟨s, -, hp⟩ := mem_elim hp
    obtain ⟨f, hf⟩ := flag_of_held hp
    cases hf
  cases x with
  | definition k d =>
    cases k with
    | assembly => exact hheld _
    | field => exact hheld _
    | flag => exact List.not_mem_nil
  | choice _ _ _ => exact List.not_mem_nil
  | group g => exact List.not_mem_nil

theorem built_of_holds_choice {home : Module} {site : Site} {c : Choice}
    (h : x.Holds (.choice home site c)) :
    ∃ d earlier child, x = .definition .assembly d ∧ home = d.home ∧
      site = .child d.site earlier.length ∧
      (ModelInstance.build d.owner earlier child).outcome = .ok (.choice c) := by
  have hchild := h.resolve_left choice_not_mem_flags
  cases x with
  | definition k d =>
    cases k with
    | assembly =>
      obtain ⟨n, hn⟩ := List.mem_iff_getElem?.mp hchild
      obtain ⟨m, hm, ho⟩ := getElem?_elim hn
      unfold Model.held at ho
      rw [List.getElem?_mapIdx, Option.map_eq_some_iff] at ho
      obtain ⟨i, hi, ho⟩ := ho
      obtain ⟨earlier, child, rfl, hb⟩ :=
        Traced.of_getElem?_collect (Placed.instances_of_buildModel hm) hi
      cases i with
      | named j => exact absurd ho (held?_element_ne_choice j.element)
      | choice c' =>
        cases ho
        exact ⟨d, earlier, child, rfl, rfl, rfl, hb⟩
      | group g => cases ho
    | field => exact absurd hchild List.not_mem_nil
    | flag => exact absurd hchild List.not_mem_nil
  | choice _ _ c' =>
    obtain ⟨i, -, hi⟩ := List.mem_map.mp hchild
    exact absurd hi (held?_element_ne_choice i.element)
  | group g =>
    obtain ⟨as, -, hchild⟩ := mem_elim hchild
    obtain ⟨a, -, ha⟩ := List.mem_map.mp hchild
    exact absurd ha (held?_element_ne_choice a.element)

theorem seated_of_holds (h : x.Holds y) : y.Seated := by
  cases y with
  | definition k d => exact seated_definition k d
  | group g => exact seated_group g
  | choice home site c =>
    obtain ⟨d, earlier, child, -, rfl, rfl, hb⟩ := built_of_holds_choice h
    exact seated_choice hb

theorem Seated.site_of_holds (hx : x.Seated) (h : x.Holds y) :
    y.home = x.home ∧
      ((∃ n, y.site = .flag x.site n ∧ x.flags[n]? = some (some y)) ∨
        ∃ n, y.site = .child x.site n ∧ x.children[n]? = some (some y)) := by
  rcases h with h | h
  · obtain ⟨n, hn⟩ := List.mem_iff_getElem?.mp h
    obtain ⟨hh, hs⟩ := hx.flags n _ hn y rfl
    exact ⟨hh, .inl ⟨n, hs, hn⟩⟩
  · obtain ⟨n, hn⟩ := List.mem_iff_getElem?.mp h
    obtain ⟨hh, hs⟩ := hx.children n _ hn y rfl
    exact ⟨hh, .inr ⟨n, hs, hn⟩⟩

theorem Seated.eq_of_site (hx : x.Seated) (hy : x.Holds y) (hz : x.Holds z)
    (h : y.site = z.site) : y = z := by
  obtain ⟨-, hy⟩ := hx.site_of_holds hy
  obtain ⟨-, hz⟩ := hx.site_of_holds hz
  rcases hy with ⟨n, hs, hn⟩ | ⟨n, hs, hn⟩ <;> rcases hz with ⟨n', hs', hn'⟩ | ⟨n', hs', hn'⟩ <;>
    rw [hs, hs'] at h <;> cases h
  · exact Option.some.inj (Option.some.inj (hn.symm.trans hn'))
  · exact Option.some.inj (Option.some.inj (hn.symm.trans hn'))

end Occupant

/-! ### Modules -/

namespace Module
variable {m : Module} {x y : Occupant} {a b : Aggregate}

/-- What stands in the module: its global definitions, and what stands in these at any depth. -/
def Reached (m : Module) (x : Occupant) : Prop :=
  ∃ k, ∃ d ∈ m.own k, Relation.ReflTransGen Occupant.Holds (.definition k d) x

/-- A part of something that stands in the module. -/
def Has (m : Module) (a : Aggregate) : Prop := ∃ x r, m.Reached x ∧ x.aggregate? r = some a

theorem Reached.step (hx : m.Reached x) (h : x.Holds y) : m.Reached y := by
  obtain ⟨k, d, hd, hr⟩ := hx
  exact ⟨k, d, hd, hr.tail h⟩

theorem Reached.of_reflTransGen (hx : m.Reached x) (h : Relation.ReflTransGen Occupant.Holds x y) :
    m.Reached y := by
  obtain ⟨k, d, hd, hr⟩ := hx
  exact ⟨k, d, hd, hr.trans h⟩

theorem Reached.cases (h : m.Reached x) :
    (∃ k, ∃ d ∈ m.own k, x = .definition k d) ∨ ∃ y, m.Reached y ∧ y.Holds x := by
  obtain ⟨k, d, hd, hr⟩ := h
  rcases Relation.ReflTransGen.cases_tail hr with rfl | ⟨y, hy, hx⟩
  · exact .inl ⟨k, d, hd, rfl⟩
  · exact .inr ⟨y, ⟨k, d, hd, hy⟩, hx⟩

theorem Reached.of_own {k : Kind} {d : Placed k} (h : d ∈ m.own k) : m.Reached (.definition k d) :=
  ⟨k, d, h, .refl⟩

theorem Reached.induct {P : ∀ x, m.Reached x → Prop}
    (own : ∀ k d (h : d ∈ m.own k), P (.definition k d) (.of_own h))
    (step : ∀ x y (hx : m.Reached x) (h : x.Holds y), P x hx → P y (hx.step h)) :
    ∀ {x} (h : m.Reached x), P x h := by
  rintro x ⟨k, d, hd, hr⟩
  induction hr with
  | refl => exact own k d hd
  | tail hr hy ih => exact step _ _ ⟨k, d, hd, hr⟩ hy ih

theorem Reached.seated (h : m.Reached x) : x.Seated := by
  rcases h.cases with ⟨k, d, -, rfl⟩ | ⟨y, -, hy⟩
  · exact Occupant.seated_definition k d
  · exact Occupant.seated_of_holds hy

theorem Reached.home (h : m.Reached x) : x.home = m := by
  induction h using Reached.induct with
  | own k d hd => exact home_of_mem_own hd
  | step x y hx hy ih => exact (hx.seated.site_of_holds hy).1.trans ih

theorem site_of_mem_own {k : Kind} {d : Placed k} (h : d ∈ m.own k) :
    d.site = .global k d.name := by
  obtain ⟨definition, -, rfl⟩ := List.mem_map.mp h
  rfl

theorem Built.eq_of_name (h : m.Built) {k : Kind} {d d' : Placed k} (hd : d ∈ m.own k)
    (hd' : d' ∈ m.own k) (hn : d.name = d'.name) : d = d' := by
  have ho := h.own?_eq_some_iff.mpr ⟨hd, hn⟩
  have ho' := h.own?_eq_some_iff.mpr ⟨hd', rfl⟩
  exact Option.some.inj (ho.symm.trans ho')

theorem Reached.site_ne_of_holds {z : Occupant} {k : Kind} {d : Placed k} (hd : d ∈ m.own k)
    (hz : m.Reached z) (hy : z.Holds y) : d.site ≠ y.site := by
  intro h
  rw [site_of_mem_own hd] at h
  obtain ⟨-, ⟨n, hs, -⟩ | ⟨n, hs, -⟩⟩ := hz.seated.site_of_holds hy
  · rw [hs] at h
    cases h
  · rw [hs] at h
    cases h

theorem Reached.parent_site {x' y' : Occupant} (hx : m.Reached x) (hy : m.Reached y)
    (hx' : x.Holds x') (hy' : y.Holds y') (h : x'.site = y'.site) : x.site = y.site := by
  obtain ⟨-, hx'⟩ := hx.seated.site_of_holds hx'
  obtain ⟨-, hy'⟩ := hy.seated.site_of_holds hy'
  rcases hx' with ⟨n, hs, -⟩ | ⟨n, hs, -⟩ <;> rcases hy' with ⟨n', hs', -⟩ | ⟨n', hs', -⟩ <;>
    rw [hs, hs'] at h
  · exact (Site.flag.inj h).1
  · cases h
  · cases h
  · exact (Site.child.inj h).1

/-- No two things that stand in a module stand at the same place. -/
theorem Reached.eq_of_site (hm : m.Built) (hx : m.Reached x) (hy : m.Reached y)
    (h : x.site = y.site) : x = y := by
  induction hx using Reached.induct generalizing y with
  | own k d hd =>
    rcases hy.cases with ⟨k', d', hd', rfl⟩ | ⟨z, hz, hy⟩
    · have hs : Site.global k d.name = .global k' d'.name := by
        rw [← site_of_mem_own hd, ← site_of_mem_own hd']
        exact h
      obtain ⟨rfl, hn⟩ := Site.global.inj hs
      rw [hm.eq_of_name hd hd' hn]
    · -- what stands in something else stands at no global place
      exact absurd h (Reached.site_ne_of_holds hd hz hy)
  | step x x' hx hx' ih =>
    rcases hy.cases with ⟨k, d, hd, rfl⟩ | ⟨z, hz, hy⟩
    · exact absurd h.symm (Reached.site_ne_of_holds hd hx hx')
    · -- the same place, so the same around it by induction
      have hxz : x = z := ih hz (hx.parent_site hz hx' hy h)
      subst hxz
      exact hx.seated.eq_of_site hx' hy h

/-! ### Parts -/

theorem Has.home (h : m.Has a) : a.home = m := by
  obtain ⟨x, r, hx, ha⟩ := h
  rw [Occupant.home_of_aggregate? ha, hx.home]

theorem Has.slot_home (h : m.Has a) : a.part.slot.home = m.id := by
  rw [a.of_part.home, h.home]

/-- No two parts of what stands in a module have the same slot. -/
theorem Has.eq_of_slot (hm : m.Built) (ha : m.Has a) (hb : m.Has b)
    (h : a.part.slot = b.part.slot) : a = b := by
  obtain ⟨x, r, hx, ha⟩ := ha
  obtain ⟨y, r', hy, hb⟩ := hb
  rw [Occupant.slot_of_aggregate? ha, Occupant.slot_of_aggregate? hb] at h
  obtain ⟨-, hs, rfl⟩ := Slot.mk.inj h
  have hxy : x = y := hx.eq_of_site hm hy hs
  rw [hxy] at ha
  exact Option.some.inj (ha.symm.trans hb)

/-- The parts that full resolution asks for are those of all that stands in the module. -/
theorem mem_parts_iff {m : Module} {p : Part Unit} : p ∈ m.parts ↔ ∃ a, m.Has a ∧ a.task = p := by
  have hown : p ∈ m.parts ↔ ∃ k, ∃ d ∈ m.own k, p ∈ Placed.parts k d := by
    unfold parts
    simp only [List.mem_append, List.mem_flatMap]
    constructor
    · rintro ((⟨d, hd, hp⟩ | ⟨d, hd, hp⟩) | ⟨d, hd, hp⟩)
      · exact ⟨.flag, d, hd, hp⟩
      · exact ⟨.field, d, hd, hp⟩
      · exact ⟨.assembly, d, hd, hp⟩
    · rintro ⟨k, d, hd, hp⟩
      cases k with
      | assembly => exact .inr ⟨d, hd, hp⟩
      | field => exact .inl (.inr ⟨d, hd, hp⟩)
      | flag => exact .inl (.inl ⟨d, hd, hp⟩)
  rw [hown]
  constructor
  · rintro ⟨k, d, hd, hp⟩
    have hx : p ∈ (Occupant.definition k d).parts := hp
    obtain ⟨y, hy, r, a, ha, rfl⟩ := Occupant.mem_parts_iff.mp hx
    exact ⟨a, ⟨y, r, ⟨k, d, hd, hy⟩, ha⟩, rfl⟩
  · rintro ⟨a, ⟨y, r, ⟨k, d, hd, hy⟩, ha⟩, rfl⟩
    exact ⟨k, d, hd, Occupant.mem_parts_iff.mpr ⟨y, hy, r, a, ha, rfl⟩⟩

end Module

end InfoModel

import InfoModel.Proofs.Building.Step

/-!
# Whose parts are whose

A definition that stands inside another one belongs to the module of the definition around it, at
any depth. Hence all parts that the resolution of a definition or module goes through are parts of
one module. Main statements: `Placed.of_mem_parts`, `Module.of_mem_parts`.
-/

namespace InfoModel

/-- A part of a definition in `m`: it is kept with the parts of `m`, and its building fits `m`. -/
structure Part.Of (m : Module) (p : Part α) : Prop where
  home : p.slot.home = m.id
  fits : p.build.Fits m

theorem Part.Of.map {m : Module} {p : Part α} (h : p.Of m) (f : α → β) : (p.map f).Of m :=
  ⟨h.home, h.fits.map f⟩

theorem Part.Of.forget {m : Module} {p : Part α} (h : p.Of m) : p.forget.Of m := h.map _

theorem Part.content?_eq_some_iff {p : Part α} {a : α} :
    p.content? = some a ↔ p.build.outcome = .ok a := by
  unfold content?
  cases p.build.outcome with
  | ok b => simp [Except.toOption]
  | error e => simp [Except.toOption]

namespace Placed

theorem of_constraints {k : Kind} (d : Placed k) : d.constraints.Of d.home :=
  ⟨rfl, d.fits_buildConstraints d.home⟩

theorem of_assemblyFlags (d : Placed .assembly) : d.assemblyFlags.Of d.home :=
  ⟨rfl, FlagSet.fits_build d.owner _ _⟩

theorem of_fieldFlags (d : Placed .field) : d.fieldFlags.Of d.home := ⟨rfl, d.fits_buildFieldFlags⟩

theorem of_model (d : Placed .assembly) : d.model.Of d.home := ⟨rfl, d.fits_buildModel⟩

end Placed

theorem ChoiceGroup.of_content (g : ChoiceGroup) : g.content.Of g.owner.home :=
  ⟨rfl, g.fits_buildAlternatives⟩

theorem Instance.home_of_build {k : Kind} {owner : Owner} {site : Site} {position : Nat}
    {origin : OriginDecl k.Decl} {i : Instance k}
    (h : (Instance.build k owner site position origin).outcome = .ok i) (hi : i.isInline = true) :
    i.definition.home = owner.home := by
  cases origin with
  | reference r =>
    obtain ⟨d, -, h⟩ := Traced.outcome_bind_eq_ok_iff.mp h
    obtain ⟨name, -, h⟩ := Traced.outcome_bind_eq_ok_iff.mp h
    cases h
    exact absurd hi (by simp [isInline])
  | inline decl =>
    obtain ⟨d, -, h⟩ := Traced.outcome_bind_eq_ok_iff.mp h
    obtain ⟨name, -, h⟩ := Traced.outcome_bind_eq_ok_iff.mp h
    cases h
    rfl

theorem FlagInstance.home_of_build {owner : Owner} {earlier : List FlagInstance} {d : FlagChildDecl}
    {i : FlagInstance} (h : (FlagInstance.build owner earlier d).outcome = .ok i)
    (hi : i.base.isInline = true) : i.base.definition.home = owner.home := by
  obtain ⟨base, hb, h⟩ := Traced.outcome_bind_eq_ok_iff.mp h
  obtain ⟨ownDefault, -, h⟩ := Traced.outcome_bind_eq_ok_iff.mp h
  obtain ⟨-, -, h⟩ := Traced.outcome_bind_eq_ok_iff.mp h
  cases h
  exact Instance.home_of_build hb hi

theorem FlagSet.instances_of_build {owner : Owner} {jsonKey : Option String}
    {children : List FlagChildDecl} {s : FlagSet}
    (h : (FlagSet.build owner jsonKey children).outcome = .ok s) :
    (Traced.collect (FlagInstance.build owner) [] children).outcome = .ok s.instances := by
  obtain ⟨instances, hc, h⟩ := Traced.outcome_bind_eq_ok_iff.mp h
  have hs : s.instances = instances := by
    cases jsonKey with
    | none =>
      obtain ⟨-, -, h⟩ := Traced.outcome_bind_eq_ok_iff.mp h
      cases h
      rfl
    | some key =>
      dsimp only at h
      split at h
      · obtain ⟨_, hf, _⟩ := Traced.outcome_bind_eq_ok_iff.mp h
        exact absurd hf (by simp [Traced.fail, Traced.ofExcept])
      · obtain ⟨-, -, h⟩ := Traced.outcome_bind_eq_ok_iff.mp h
        cases h
        rfl
  rw [hs]
  exact hc

theorem FlagSet.home_of_build {owner : Owner} {jsonKey : Option String}
    {children : List FlagChildDecl} {s : FlagSet}
    (h : (FlagSet.build owner jsonKey children).outcome = .ok s) {i : FlagInstance}
    (hm : i ∈ s.instances) (hi : i.base.isInline = true) : i.base.definition.home = owner.home := by
  rcases Traced.mem_collect (instances_of_build h) hm with hn | ⟨earlier, d, -, hb⟩
  · exact absurd hn List.not_mem_nil
  · exact FlagInstance.home_of_build hb hi

theorem Placed.build_of_buildFieldFlags {d : Placed .field} {s : FlagSet}
    (h : d.buildFieldFlags.outcome = .ok s) :
    (FlagSet.build d.owner d.decl.jsonKey d.decl.flags).outcome = .ok s := by
  obtain ⟨s', hs, h⟩ := Traced.outcome_bind_eq_ok_iff.mp h
  have he : s' = s := by
    cases hk : d.decl.jsonValueKeyFlag with
    | none =>
      rw [hk] at h
      cases h
      rfl
    | some key =>
      rw [hk] at h
      dsimp only at h
      split at h
      · obtain ⟨_, hf, _⟩ := Traced.outcome_bind_eq_ok_iff.mp h
        exact absurd hf (by simp [Traced.fail, Traced.ofExcept])
      · cases h
        rfl
  rw [← he]
  exact hs

def Inner.Of (m : Module) : Inner → Prop
  | .part p => p.Of m
  | .assembly a => a.home = m

theorem Placed.of_mem_flagParts {d : Placed .flag} {p : Part Unit} (h : p ∈ d.flagParts) :
    p.Of d.home := by
  rw [List.mem_singleton.mp h]
  exact d.of_constraints.forget

theorem of_mem_flagSetParts {m : Module} {p : Part FlagSet} (hp : p.Of m)
    (hh : ∀ s, p.build.outcome = .ok s → ∀ i ∈ s.instances, i.base.isInline = true →
      i.base.definition.home = m) {q : Part Unit} (hq : q ∈ flagSetParts p) : q.Of m := by
  unfold flagSetParts at hq
  rcases List.mem_cons.mp hq with rfl | hq
  · exact hp.forget
  · split at hq
    · rename_i s hs
      obtain ⟨i, hi, hq⟩ := List.mem_flatMap.mp hq
      unfold FlagInstance.parts at hq
      split at hq
      · rename_i hinline
        rw [← hh s (Part.content?_eq_some_iff.mp hs) i hi hinline]
        exact Placed.of_mem_flagParts hq
      · exact absurd hq List.not_mem_nil
    · exact absurd hq List.not_mem_nil

theorem Placed.of_mem_fieldParts {d : Placed .field} {p : Part Unit} (h : p ∈ d.fieldParts) :
    p.Of d.home := by
  unfold fieldParts at h
  rcases List.mem_append.mp h with h | h
  · refine of_mem_flagSetParts d.of_fieldFlags ?_ h
    intro s hs i hi hinline
    exact FlagSet.home_of_build (build_of_buildFieldFlags hs) hi hinline
  · rw [List.mem_singleton.mp h]
    exact d.of_constraints.forget

def Element.Of (m : Module) : Element → Prop
  | .assembly i => i.isInline = true → i.definition.home = m
  | .field i => i.isInline = true → i.definition.home = m

theorem Element.of_mem_inner {m : Module} {e : Element} (he : e.Of m) {x : Inner}
    (hx : x ∈ e.inner) : x.Of m := by
  cases e with
  | assembly i =>
    simp only [inner] at hx
    split at hx
    · rename_i hi
      rw [List.mem_singleton.mp hx]
      exact he hi
    · exact absurd hx List.not_mem_nil
  | field i =>
    simp only [inner] at hx
    split at hx
    · rename_i hi
      obtain ⟨p, hp, rfl⟩ := List.mem_map.mp hx
      rw [← he hi]
      exact Placed.of_mem_fieldParts hp
    · exact absurd hx List.not_mem_nil

theorem NamedInstance.of_build {owner : Owner} {site : Site} {earlier : List NamedInstance}
    {d : NamedChildDecl} {i : NamedInstance}
    (h : (NamedInstance.build owner site earlier d).outcome = .ok i) : i.element.Of owner.home := by
  obtain ⟨j, hj, h⟩ := Traced.outcome_bind_eq_ok_iff.mp h
  obtain ⟨-, -, h⟩ := Traced.outcome_bind_eq_ok_iff.mp h
  cases h
  cases d with
  | assembly use origin =>
    obtain ⟨base, hb, hj⟩ := Traced.outcome_bind_eq_ok_iff.mp hj
    obtain ⟨occurrence, -, hj⟩ := Traced.outcome_bind_eq_ok_iff.mp hj
    cases hj
    exact Instance.home_of_build hb
  | field use inXml origin =>
    obtain ⟨base, hb, hj⟩ := Traced.outcome_bind_eq_ok_iff.mp hj
    obtain ⟨default, -, hj⟩ := Traced.outcome_bind_eq_ok_iff.mp hj
    obtain ⟨occurrence, -, hj⟩ := Traced.outcome_bind_eq_ok_iff.mp hj
    cases hj
    exact Instance.home_of_build hb

theorem Alternative.of_build {owner : Owner} {jsonKey : Option String} {earlier : List Alternative}
    {d : AlternativeDecl} {a : Alternative}
    (h : (Alternative.build owner jsonKey earlier d).outcome = .ok a) :
    a.element.Of owner.home := by
  obtain ⟨j, hj, h⟩ := Traced.outcome_bind_eq_ok_iff.mp h
  obtain ⟨-, -, h⟩ := Traced.outcome_bind_eq_ok_iff.mp h
  cases h
  cases d with
  | assembly discriminator origin =>
    obtain ⟨base, hb, hj⟩ := Traced.outcome_bind_eq_ok_iff.mp hj
    cases hj
    exact Instance.home_of_build hb
  | field discriminator origin =>
    obtain ⟨base, hb, hj⟩ := Traced.outcome_bind_eq_ok_iff.mp hj
    cases hj
    exact Instance.home_of_build hb

theorem ChoiceGroup.of_mem_inner {g : ChoiceGroup} {x : Inner} (hx : x ∈ g.inner) :
    x.Of g.owner.home := by
  unfold inner at hx
  rcases List.mem_cons.mp hx with rfl | hx
  · exact g.of_content.forget
  · split at hx
    · rename_i as has
      obtain ⟨a, ha, hxa⟩ := List.mem_flatMap.mp hx
      have ho := Part.content?_eq_some_iff.mp has
      obtain ⟨instances, hc, ho⟩ := Traced.outcome_bind_eq_ok_iff.mp ho
      obtain ⟨-, -, ho⟩ := Traced.outcome_bind_eq_ok_iff.mp ho
      cases ho
      rcases Traced.mem_collect hc ha with hn | ⟨earlier, d, -, hb⟩
      · exact absurd hn List.not_mem_nil
      · exact Element.of_mem_inner (Alternative.of_build hb) hxa
    · exact absurd hx List.not_mem_nil

theorem ModelInstance.of_mem_inner {owner : Owner} {earlier : List ModelInstance}
    {d : ModelChildDecl} {i : ModelInstance}
    (h : (ModelInstance.build owner earlier d).outcome = .ok i)
    {x : Inner} (hx : x ∈ i.inner) : x.Of owner.home := by
  cases d with
  | named child =>
    obtain ⟨j, hj, h⟩ := Traced.outcome_bind_eq_ok_iff.mp h
    cases h
    exact Element.of_mem_inner (NamedInstance.of_build hj) hx
  | choice children =>
    obtain ⟨body, hb, h⟩ := Traced.outcome_bind_eq_ok_iff.mp h
    cases h
    obtain ⟨j, hj, hx⟩ := List.mem_flatMap.mp hx
    rcases Traced.mem_collect hb hj with hn | ⟨made, child, -, hc⟩
    · exact absurd hn List.not_mem_nil
    · exact Element.of_mem_inner (NamedInstance.of_build hc) hx
  | group head alternatives =>
    obtain ⟨g, hg, h⟩ := Traced.outcome_bind_eq_ok_iff.mp h
    cases h
    obtain ⟨occurrence, -, hg⟩ := Traced.outcome_bind_eq_ok_iff.mp hg
    obtain ⟨-, -, hg⟩ := Traced.outcome_bind_eq_ok_iff.mp hg
    cases hg
    exact ChoiceGroup.of_mem_inner hx

namespace Placed

theorem of_mem_inner {d : Placed .assembly} {x : Inner} (hx : x ∈ d.inner) : x.Of d.home := by
  unfold inner at hx
  rcases List.mem_append.mp hx with hx | hx
  · rcases List.mem_append.mp hx with hx | hx
    · obtain ⟨p, hp, rfl⟩ := List.mem_map.mp hx
      refine of_mem_flagSetParts d.of_assemblyFlags ?_ hp
      intro s hs i hi hinline
      exact FlagSet.home_of_build hs hi hinline
    · unfold innerOfModel at hx
      rcases List.mem_cons.mp hx with rfl | hx
      · exact d.of_model.forget
      · split at hx
        · rename_i m hm
          obtain ⟨i, hi, hxi⟩ := List.mem_flatMap.mp hx
          have ho := Part.content?_eq_some_iff.mp hm
          obtain ⟨instances, hc, ho⟩ := Traced.outcome_bind_eq_ok_iff.mp ho
          obtain ⟨-, -, ho⟩ := Traced.outcome_bind_eq_ok_iff.mp ho
          cases ho
          rcases Traced.mem_collect hc hi with hn | ⟨earlier, c, -, hb⟩
          · exact absurd hn List.not_mem_nil
          · exact ModelInstance.of_mem_inner hb hxi
        · exact absurd hx List.not_mem_nil
  · rw [List.mem_singleton.mp hx]
    exact d.of_constraints.forget

theorem of_mem_assemblyParts {d : Placed .assembly} {p : Part Unit} (h : p ∈ d.assemblyParts) :
    p.Of d.home := by
  -- inner assemblies are smaller and belong to the same module
  induction d using assemblyParts.induct with
  | case1 d ih =>
    rw [assemblyParts] at h
    obtain ⟨⟨x, hx⟩, -, hp⟩ := List.mem_flatMap.mp h
    cases x with
    | part q =>
      rw [List.mem_singleton.mp hp]
      exact of_mem_inner hx
    | assembly a =>
      have ha : a.home = d.home := of_mem_inner hx
      rw [← ha]
      exact ih a hx hp

theorem of_mem_parts {k : Kind} {d : Placed k} {p : Part Unit} (h : p ∈ parts k d) :
    p.Of d.home := by
  cases k with
  | assembly => exact of_mem_assemblyParts h
  | field => exact of_mem_fieldParts h
  | flag => exact of_mem_flagParts h

end Placed

theorem Module.home_of_mem_own {m : Module} {k : Kind} {d : Placed k} (h : d ∈ m.own k) :
    d.home = m := by
  obtain ⟨definition, -, rfl⟩ := List.mem_map.mp h
  rfl

/-- All parts that the resolution of a module goes through are its own. -/
theorem Module.of_mem_parts {m : Module} {p : Part Unit} (h : p ∈ m.parts) : p.Of m := by
  unfold parts at h
  rcases List.mem_append.mp h with h | h
  · rcases List.mem_append.mp h with h | h
    · obtain ⟨d, hd, hp⟩ := List.mem_flatMap.mp h
      rw [← home_of_mem_own hd]
      exact Placed.of_mem_flagParts hp
    · obtain ⟨d, hd, hp⟩ := List.mem_flatMap.mp h
      rw [← home_of_mem_own hd]
      exact Placed.of_mem_fieldParts hp
  · obtain ⟨d, hd, hp⟩ := List.mem_flatMap.mp h
    rw [← home_of_mem_own hd]
    exact Placed.of_mem_assemblyParts hp

end InfoModel

import InfoModel.Model.Store

/-!
# Full resolution

To resolve a definition is to ask for all of its parts, and for those of the definitions that it
holds inside: in its flags, in its model, in the bodies of choices and among the alternatives of
groups. References are not followed. The parts come in a fixed order, and the first that cannot be
built ends the resolution. Main functions: `Placed.parts`, `Placed.resolveAll`, `Module.resolveAll`.
-/

namespace InfoModel

/-- What is built if the building succeeds. -/
def Part.content? (p : Part α) : Option α := p.build.outcome.toOption

def Placed.flagParts (d : Placed .flag) : List (Part Unit) := [d.constraints.forget]

def FlagInstance.parts (i : FlagInstance) : List (Part Unit) :=
  if i.base.isInline then i.base.definition.flagParts else []

/-- A part with flags, and the parts of the definitions that the flags hold. -/
def flagSetParts (p : Part FlagSet) : List (Part Unit) :=
  p.forget ::
    match p.content? with
    | some s => s.instances.flatMap FlagInstance.parts
    | none => []

def Placed.fieldParts (d : Placed .field) : List (Part Unit) :=
  flagSetParts d.fieldFlags ++ [d.constraints.forget]

/-- Something directly inside an assembly: a part that is to be built, or another assembly. -/
inductive Inner where
  | part (p : Part Unit)
  | assembly (d : Placed .assembly)

def Element.inner : Element → List Inner
  | .assembly i => if i.isInline then [.assembly i.definition] else []
  | .field i => if i.isInline then i.definition.fieldParts.map .part else []

def ChoiceGroup.inner (g : ChoiceGroup) : List Inner :=
  .part g.content.forget ::
    match g.content.content? with
    | some as => as.instances.flatMap fun a => a.element.inner
    | none => []

def ModelInstance.inner : ModelInstance → List Inner
  | .named i => i.element.inner
  | .choice c => c.body.flatMap fun i => i.element.inner
  | .group g => g.inner

def Placed.innerOfModel (d : Placed .assembly) : List Inner :=
  .part d.model.forget ::
    match d.model.content? with
    | some m => m.instances.flatMap ModelInstance.inner
    | none => []

def Placed.inner (d : Placed .assembly) : List Inner :=
  (flagSetParts d.assemblyFlags).map .part ++ d.innerOfModel ++ [.part d.constraints.forget]

theorem Instance.decl_of_build {k : Kind} {owner : Owner} {site : Site} {position : Nat}
    {origin : OriginDecl k.Decl} {i : Instance k}
    (h : (Instance.build k owner site position origin).outcome = .ok i) (hi : i.isInline = true) :
    origin = .inline i.definition.decl := by
  cases origin with
  | reference r =>
    obtain ⟨d, -, h⟩ := Traced.outcome_bind_eq_ok_iff.mp h
    obtain ⟨name, -, h⟩ := Traced.outcome_bind_eq_ok_iff.mp h
    cases h
    simp [isInline] at hi
  | inline decl =>
    obtain ⟨d, hd, h⟩ := Traced.outcome_bind_eq_ok_iff.mp h
    obtain ⟨name, -, h⟩ := Traced.outcome_bind_eq_ok_iff.mp h
    cases h
    simp only [Build.basic, orBasic, Traced.ofExcept] at hd
    split at hd
    · rename_i hp
      cases hd
      simp [Placed.decl, Kind.decl_of_prepare hp]
    · contradiction

theorem sizeOf_decl_lt_of_assembly {owner : Owner} {site : Site} {position : Nat}
    {origin : OriginDecl AssemblyDecl} {i : Instance .assembly} {a : Placed .assembly}
    (h : (Instance.build .assembly owner site position origin).outcome = .ok i)
    (ha : .assembly a ∈ (Element.assembly i).inner) : sizeOf a.decl < sizeOf origin := by
  simp only [Element.inner] at ha
  split at ha
  · rename_i hi
    simp only [List.mem_singleton, Inner.assembly.injEq] at ha
    subst ha
    rw [Instance.decl_of_build h hi]
    simp
  · simp at ha

theorem NamedInstance.sizeOf_decl_lt {owner : Owner} {site : Site} {earlier : List NamedInstance}
    {d : NamedChildDecl} {i : NamedInstance} {a : Placed .assembly}
    (h : (NamedInstance.build owner site earlier d).outcome = .ok i)
    (ha : .assembly a ∈ i.element.inner) : sizeOf a.decl < sizeOf d := by
  obtain ⟨j, hj, h⟩ := Traced.outcome_bind_eq_ok_iff.mp h
  obtain ⟨-, -, h⟩ := Traced.outcome_bind_eq_ok_iff.mp h
  cases h
  cases d with
  | assembly use origin =>
    obtain ⟨base, hb, hj⟩ := Traced.outcome_bind_eq_ok_iff.mp hj
    obtain ⟨occurrence, -, hj⟩ := Traced.outcome_bind_eq_ok_iff.mp hj
    cases hj
    have := sizeOf_decl_lt_of_assembly hb ha
    simp only [NamedChildDecl.assembly.sizeOf_spec]
    omega
  | field use inXml origin =>
    obtain ⟨base, -, hj⟩ := Traced.outcome_bind_eq_ok_iff.mp hj
    obtain ⟨default, -, hj⟩ := Traced.outcome_bind_eq_ok_iff.mp hj
    obtain ⟨occurrence, -, hj⟩ := Traced.outcome_bind_eq_ok_iff.mp hj
    cases hj
    simp only [element, Element.inner] at ha
    split at ha <;> simp at ha

theorem Alternative.sizeOf_decl_lt {owner : Owner} {jsonKey : Option String}
    {earlier : List Alternative} {d : AlternativeDecl} {i : Alternative} {a : Placed .assembly}
    (h : (Alternative.build owner jsonKey earlier d).outcome = .ok i)
    (ha : .assembly a ∈ i.element.inner) : sizeOf a.decl < sizeOf d := by
  obtain ⟨j, hj, h⟩ := Traced.outcome_bind_eq_ok_iff.mp h
  obtain ⟨-, -, h⟩ := Traced.outcome_bind_eq_ok_iff.mp h
  cases h
  cases d with
  | assembly discriminator origin =>
    obtain ⟨base, hb, hj⟩ := Traced.outcome_bind_eq_ok_iff.mp hj
    cases hj
    have := sizeOf_decl_lt_of_assembly hb ha
    simp only [AlternativeDecl.assembly.sizeOf_spec]
    omega
  | field discriminator origin =>
    obtain ⟨base, -, hj⟩ := Traced.outcome_bind_eq_ok_iff.mp hj
    cases hj
    simp only [Element.inner] at ha
    split at ha <;> simp at ha

theorem ChoiceGroup.sizeOf_decl_lt {g : ChoiceGroup} {a : Placed .assembly}
    (ha : .assembly a ∈ g.inner) : sizeOf a.decl < sizeOf g.alternatives := by
  simp only [inner, List.mem_cons, reduceCtorEq, false_or] at ha
  split at ha
  · rename_i as has
    simp only [List.mem_flatMap] at ha
    obtain ⟨i, hi, ha⟩ := ha
    have ho : g.buildAlternatives.outcome = .ok as := by
      simp only [Part.content?, content, Part.ofOwner] at has
      revert has
      cases g.buildAlternatives.outcome <;> simp [Except.toOption]
    obtain ⟨instances, hc, ho⟩ := Traced.outcome_bind_eq_ok_iff.mp ho
    obtain ⟨-, -, ho⟩ := Traced.outcome_bind_eq_ok_iff.mp ho
    cases ho
    rcases Traced.mem_collect hc hi with h | ⟨earlier, d, hd, h⟩
    · simp at h
    · exact Nat.lt_trans (Alternative.sizeOf_decl_lt h ha) (List.sizeOf_lt_of_mem hd)
  · simp at ha

theorem ModelInstance.sizeOf_decl_lt {owner : Owner} {earlier : List ModelInstance}
    {d : ModelChildDecl} {i : ModelInstance} {a : Placed .assembly}
    (h : (ModelInstance.build owner earlier d).outcome = .ok i) (ha : .assembly a ∈ i.inner) :
    sizeOf a.decl < sizeOf d := by
  cases d with
  | named child =>
    obtain ⟨j, hj, h⟩ := Traced.outcome_bind_eq_ok_iff.mp h
    cases h
    have := NamedInstance.sizeOf_decl_lt hj ha
    simp only [ModelChildDecl.named.sizeOf_spec]
    omega
  | choice children =>
    obtain ⟨body, hb, h⟩ := Traced.outcome_bind_eq_ok_iff.mp h
    cases h
    simp only [inner, List.mem_flatMap] at ha
    obtain ⟨j, hj, ha⟩ := ha
    rcases Traced.mem_collect hb hj with h | ⟨made, child, hm, h⟩
    · simp at h
    · have := NamedInstance.sizeOf_decl_lt h ha
      have := List.sizeOf_lt_of_mem hm
      simp only [ModelChildDecl.choice.sizeOf_spec]
      omega
  | group head alternatives =>
    obtain ⟨g, hg, h⟩ := Traced.outcome_bind_eq_ok_iff.mp h
    cases h
    obtain ⟨occurrence, -, hg⟩ := Traced.outcome_bind_eq_ok_iff.mp hg
    obtain ⟨-, -, hg⟩ := Traced.outcome_bind_eq_ok_iff.mp hg
    cases hg
    have := ChoiceGroup.sizeOf_decl_lt ha
    simp only [ModelChildDecl.group.sizeOf_spec]
    simp only at this
    omega

/-- An assembly inside an assembly is declared inside the other's declaration. -/
theorem Placed.sizeOf_decl_lt {a d : Placed .assembly} (ha : .assembly a ∈ d.inner) :
    sizeOf a.decl < sizeOf d.decl := by
  simp only [inner, List.mem_append, List.mem_map, reduceCtorEq, and_false, exists_false, false_or,
    List.mem_cons, List.not_mem_nil, or_false, innerOfModel] at ha
  split at ha
  · rename_i m hm
    simp only [List.mem_flatMap] at ha
    obtain ⟨i, hi, ha⟩ := ha
    have ho : d.buildModel.outcome = .ok m := by
      simp only [Part.content?, model, Part.ofOwner] at hm
      revert hm
      cases d.buildModel.outcome <;> simp [Except.toOption]
    obtain ⟨instances, hc, ho⟩ := Traced.outcome_bind_eq_ok_iff.mp ho
    obtain ⟨-, -, ho⟩ := Traced.outcome_bind_eq_ok_iff.mp ho
    cases ho
    rcases Traced.mem_collect hc hi with h | ⟨earlier, c, hc, h⟩
    · simp at h
    · have h₁ := ModelInstance.sizeOf_decl_lt h ha
      have h₂ := List.sizeOf_lt_of_mem hc
      have h₃ : sizeOf d.decl.model < sizeOf d.decl := by
        cases hd : d.decl with
        | mk head rootName rootIndex jsonKey flags model constraint =>
          simp only [AssemblyDecl.mk.sizeOf_spec]
          omega
      omega
  · simp at ha

namespace Placed

def assemblyParts (d : Placed .assembly) : List (Part Unit) :=
  d.inner.attach.flatMap fun
    | ⟨.part p, _⟩ => [p]
    | ⟨.assembly a, _⟩ => assemblyParts a
termination_by sizeOf d.decl
decreasing_by exact sizeOf_decl_lt (by assumption)

/-- The parts of a definition of any kind, in the order in which they are asked for. -/
def parts : (k : Kind) → Placed k → List (Part Unit)
  | .assembly, d => d.assemblyParts
  | .field, d => d.fieldParts
  | .flag, d => d.flagParts

def resolveAll (d : Placed k) : Request Unit := (parts k d).forM Part.get

end Placed

/-- The parts of all global definitions of a module: flags, then fields, then assemblies. -/
def Module.parts (m : Module) : List (Part Unit) :=
  (m.own .flag).flatMap Placed.flagParts ++ (m.own .field).flatMap Placed.fieldParts ++
    (m.own .assembly).flatMap Placed.assemblyParts

def Module.resolveAll (m : Module) : Request Unit := do
  m.parts.forM Part.get
  Request.notice (.resolvedModule m.shortName)

end InfoModel

import InfoModel.Model.Resolution

/-!
# The steps and faults of a building

Whatever part of a definition is built, the steps on the way are of two sorts: looks into what some
module exports that the definition's own imports, and events about parts. Shadowing is noticed only
where tables of exports are made, and what becomes of a module as a whole only where it is built,
resolved or loaded. If the building fails, the fault is one of the definition, not one of a loader
or of a module that was released.
-/

namespace InfoModel

/-! ### Steps and faults of one sort -/

namespace Traced
variable {σ τ ε ζ α β : Type} {P : σ → Prop} {E : ε → Prop}

/-- All steps on the way have a property, and if the outcome is a fault, it has another one. -/
structure Every (P : σ → Prop) (E : ε → Prop) (x : Traced σ ε α) : Prop where
  steps : ∀ a ∈ x.trace, P a
  fault : ∀ e, x.outcome = .error e → E e

theorem Every.ofExcept {outcome : Except ε α} (h : ∀ e, outcome = .error e → E e) :
    (ofExcept outcome : Traced σ ε α).Every P E :=
  ⟨fun _ ha => absurd ha List.not_mem_nil, h⟩

theorem Every.pure (a : α) : (pure a : Traced σ ε α).Every P E :=
  Every.ofExcept fun e he => absurd he (by simp)

theorem Every.fail {e : ε} (h : E e) : (fail e : Traced σ ε α).Every P E := by
  refine Every.ofExcept ?_
  intro e' he
  cases he
  exact h

theorem Every.step {s : σ} (h : P s) : (step s : Traced σ ε Unit).Every P E := by
  refine ⟨?_, fun e he => absurd he (by simp [Traced.step, Traced.steps])⟩
  intro s' hs
  rw [List.mem_singleton.mp hs]
  exact h

theorem Every.bind_of_ok {x : Traced σ ε α} {f : α → Traced σ ε β} (hx : x.Every P E)
    (hf : ∀ a, x.outcome = .ok a → (f a).Every P E) : (x >>= f).Every P E := by
  cases ho : x.outcome with
  | ok a =>
    have hb : (x >>= f).outcome = (f a).outcome := by
      rw [outcome_bind, ho]
      rfl
    refine ⟨?_, fun e he => (hf a ho).fault e (hb ▸ he)⟩
    intro s hs
    rw [trace_bind_ok ho] at hs
    rcases List.mem_append.mp hs with hs | hs
    · exact hx.steps s hs
    · exact (hf a ho).steps s hs
  | error e =>
    have hb : (x >>= f).outcome = .error e := by
      rw [outcome_bind, ho]
      rfl
    refine ⟨?_, ?_⟩
    · intro s hs
      rw [trace_bind_error ho] at hs
      exact hx.steps s hs
    · intro e' he
      rw [hb] at he
      cases he
      exact hx.fault e ho

theorem Every.bind {x : Traced σ ε α} {f : α → Traced σ ε β} (hx : x.Every P E)
    (hf : ∀ a, (f a).Every P E) : (x >>= f).Every P E :=
  hx.bind_of_ok fun a _ => hf a

theorem Every.map {x : Traced σ ε α} (hx : x.Every P E) (f : α → β) : (f <$> x).Every P E := by
  rw [← bind_pure_comp]
  exact hx.bind fun a => Every.pure (f a)

theorem Every.collect {make : List β → α → Traced σ ε β} (h : ∀ made a, (make made a).Every P E)
    (made : List β) (as : List α) : (Traced.collect make made as).Every P E := by
  induction as generalizing made with
  | nil => exact Every.pure made
  | cons a as ih => exact (h made a).bind fun b => ih (made ++ [b])

theorem Every.mapM {f : α → Traced σ ε β} (h : ∀ a, (f a).Every P E) (as : List α) :
    (as.mapM f).Every P E := by
  induction as with
  | nil =>
    rw [List.mapM_nil]
    exact Every.pure []
  | cons a as ih =>
    rw [List.mapM_cons]
    exact (h a).bind fun b => ih.bind fun bs => Every.pure (b :: bs)

end Traced

/-! ### What builders do -/

namespace Event

def isShadowing : Event → Bool
  | .shadowed .. => true
  | _ => false

def isLoading : Event → Bool
  | .loadedModule .. => true
  | _ => false

def isOfPart : Event → Bool
  | .readSettings .. | .replacedDatatype ..
  | .builtModule .. | .resolvedModule .. | .loadedModule ..
  | .shadowed .. => false
  | _ => true

theorem isShadowing_of_isOfPart {e : Event} (h : e.isOfPart = true) : e.isShadowing = false := by
  cases e <;> simp [isOfPart, isShadowing] at h ⊢

theorem isLoading_of_isOfPart {e : Event} (h : e.isOfPart = true) : e.isLoading = false := by
  cases e <;> simp [isOfPart, isLoading] at h ⊢

end Event

/-- A step that the building of a part of a definition in `m` may take. -/
def Step.Fits (m : Module) : Step → Prop
  | .look i k name found => i ∈ m.imports ∧ found = i.exported? k name
  | .notice e => e.isOfPart = true

def ModelFault.OfDefinition : ModelFault → Prop
  | .released _ | .importCycle _ | .missingImport .. => False
  | _ => True

namespace Build
variable {m : Module} {P : Step → Prop} {E : ModelFault → Prop}

def Fits (m : Module) (x : Build α) : Prop := x.Every (Step.Fits m) ModelFault.OfDefinition

/-- Every step that a building for a definition in `m` may take has the property `P`, and every
fault that it may end in has the property `E`. A reference is unresolved if `m` reads it as a name
that means nothing in `m`. -/
structure Permits (m : Module) (P : Step → Prop) (E : ModelFault → Prop) : Prop where
  look : ∀ i ∈ m.imports, ∀ k name, P (.look i k name (i.exported? k name))
  notice : ∀ e : Event, e.isOfPart = true → P (.notice e)
  basic : ∀ f, E (.basic f)
  unresolved : ∀ k {reference name}, m.info.source.readName reference = .ok name →
    m.visible? k name = none →
    ∀ definition, E (.unresolvedReference k reference definition m.shortName)
  jsonKey : ∀ flag definition, E (.invalidJsonKey flag definition m.shortName)
  jsonValueKeyFlag : ∀ flag definition, E (.invalidJsonValueKeyFlag flag definition m.shortName)
  constraint : ∀ definition f, E (.constraint definition m.shortName f)

theorem permits_fits (m : Module) : Permits m (Step.Fits m) ModelFault.OfDefinition where
  look _ hi _ _ := ⟨hi, rfl⟩
  notice _ he := he
  basic _ := trivial
  unresolved _ _ _ _ _ _ := trivial
  jsonKey _ _ := trivial
  jsonValueKeyFlag _ _ := trivial
  constraint _ _ := trivial

theorem Permits.every_basic (h : Permits m P E) (x : Except Fault α) :
    (Build.basic x).Every P E := by
  refine Traced.Every.ofExcept ?_
  intro e he
  cases x with
  | ok a => exact absurd he (by simp [orBasic])
  | error f =>
    cases he
    exact h.basic f

theorem Permits.every_noticeIf (h : Permits m P E) {e : Event} (he : e.isOfPart = true)
    (cause : Bool) : (noticeIf cause e).Every P E := by
  cases cause with
  | true => exact Traced.Every.step (h.notice e he)
  | false => exact Traced.Every.pure ()

end Build

theorem Module.mem_upTo {α : Type} {p : α → Bool} {a : α} {as : List α} (h : a ∈ upTo p as) :
    a ∈ as := by
  induction as with
  | nil => exact h
  | cons b bs ih =>
    rcases List.mem_cons.mp h with rfl | h
    · exact List.mem_cons_self
    · split at h
      · exact absurd h List.not_mem_nil
      · exact List.mem_cons_of_mem b (ih h)

theorem Module.mem_of_consulted {m i : Module} {k : Kind} {name : QName}
    (h : i ∈ m.consulted k name) : i ∈ m.imports := by
  unfold consulted at h
  split at h
  · exact absurd h List.not_mem_nil
  · exact mem_upTo h

section
variable {m : Module} {owner : Owner} {P : Step → Prop} {E : ModelFault → Prop}

theorem Module.every_resolve (h : Build.Permits m P E) (k : Kind) (reference : String)
    (containing : QName) : (m.resolve k reference containing).Every P E := by
  refine (h.every_basic _).bind_of_ok fun name hn => ?_
  have hread : m.info.source.readName reference = .ok name := by
    cases hr : m.info.source.readName reference with
    | ok n =>
      rw [Build.basic, hr] at hn
      cases hn
      rfl
    | error f =>
      rw [Build.basic, hr] at hn
      cases hn
  have hfind : (m.find k name).Every P E := by
    rw [find_eq]
    refine ⟨?_, fun e he => absurd he (by simp)⟩
    intro s hs
    obtain ⟨i, hi, rfl⟩ := List.mem_map.mp hs
    exact h.look i (mem_of_consulted hi) k name
  refine hfind.bind_of_ok fun found hfound => ?_
  rw [find_eq] at hfound
  cases hfound
  split
  · exact Traced.Every.pure _
  · rename_i hv
    exact Traced.Every.fail (h.unresolved k hread hv _)

/-! ### Instances -/

theorem Instance.every_build (h : Build.Permits owner.home P E) (k : Kind) (site : Site)
    (position : Nat) (origin : OriginDecl k.Decl) :
    (Instance.build k owner site position origin).Every P E := by
  cases origin with
  | reference r =>
    exact (Module.every_resolve h k r.reference owner.definition).bind fun d =>
      (h.every_basic _).bind fun name => Traced.Every.pure _
  | inline decl =>
    exact (h.every_basic _).bind fun d =>
      (h.every_basic _).bind fun name => Traced.Every.pure _

theorem OriginDecl.every_readDefault (h : Build.Permits m P E) (d : Datatype)
    (origin : OriginDecl δ) : (origin.readDefault d).Every P E := by
  cases origin with
  | reference r => exact h.every_basic _
  | inline decl => exact Traced.Every.pure _

theorem FlagInstance.every_build (h : Build.Permits owner.home P E) (earlier : List FlagInstance)
    (d : FlagChildDecl) : (FlagInstance.build owner earlier d).Every P E :=
  (Instance.every_build h .flag _ _ _).bind fun _ =>
    (OriginDecl.every_readDefault h _ _).bind fun _ =>
      (h.every_noticeIf rfl _).bind fun _ => Traced.Every.pure _

theorem NamedInstance.every_ofDecl (h : Build.Permits owner.home P E) (site : Site)
    (earlier : List NamedInstance) (d : NamedChildDecl) :
    (NamedInstance.ofDecl owner site earlier d).Every P E := by
  cases d with
  | assembly use origin =>
    exact (Instance.every_build h .assembly _ _ _).bind fun _ =>
      (h.every_basic _).bind fun _ => Traced.Every.pure _
  | field use inXml origin =>
    exact (Instance.every_build h .field _ _ _).bind fun _ =>
      (OriginDecl.every_readDefault h _ _).bind fun _ =>
        (h.every_basic _).bind fun _ => Traced.Every.pure _

theorem NamedInstance.every_build (h : Build.Permits owner.home P E) (site : Site)
    (earlier : List NamedInstance) (d : NamedChildDecl) :
    (NamedInstance.build owner site earlier d).Every P E :=
  (NamedInstance.every_ofDecl h site earlier d).bind fun _ =>
    (h.every_noticeIf rfl _).bind fun _ => Traced.Every.pure _

/-! ### Parts -/

theorem FlagSet.every_build (h : Build.Permits owner.home P E) (jsonKey : Option String)
    (children : List FlagChildDecl) : (FlagSet.build owner jsonKey children).Every P E := by
  refine (Traced.Every.collect (FlagInstance.every_build h) [] children).bind fun instances => ?_
  have hrest : ∀ u : Unit, (do
      Build.noticeIf (!children.isEmpty) (.builtFlags owner.definition.text instances.length)
      return ⟨instances, jsonKey⟩ : Build FlagSet).Every P E :=
    fun _ => (h.every_noticeIf rfl _).bind fun _ => Traced.Every.pure _
  cases jsonKey with
  | none => exact hrest ()
  | some key =>
    dsimp only
    split
    · exact (Traced.Every.fail (h.jsonKey _ _)).bind hrest
    · exact hrest ()

theorem Placed.every_buildFieldFlags {d : Placed .field} (h : Build.Permits d.home P E) :
    d.buildFieldFlags.Every P E := by
  have hs : (FlagSet.build d.owner d.decl.jsonKey d.decl.flags).Every P E :=
    FlagSet.every_build h _ _
  refine hs.bind fun s => ?_
  cases d.decl.jsonValueKeyFlag with
  | none => exact Traced.Every.pure s
  | some key =>
    dsimp only
    split
    · exact (Traced.Every.fail (h.jsonValueKeyFlag _ _)).bind fun _ => Traced.Every.pure s
    · exact Traced.Every.pure s

theorem ModelInstance.every_build (h : Build.Permits owner.home P E) (earlier : List ModelInstance)
    (d : ModelChildDecl) : (ModelInstance.build owner earlier d).Every P E := by
  cases d with
  | named child =>
    exact (NamedInstance.every_build h _ _ child).bind fun _ => Traced.Every.pure _
  | choice children =>
    exact (Traced.Every.collect (fun made child => NamedInstance.every_build h _ made child)
      [] children).bind fun _ => Traced.Every.pure _
  | group head alternatives =>
    have hg : (ChoiceGroup.build owner (.child owner.site earlier.length)
        (earlier.filterMap ModelInstance.group?) head alternatives).Every P E :=
      (h.every_basic _).bind fun _ =>
        (h.every_noticeIf rfl _).bind fun _ => Traced.Every.pure _
    exact hg.bind fun _ => Traced.Every.pure _

theorem Placed.every_buildModel {d : Placed .assembly} (h : Build.Permits d.home P E) :
    d.buildModel.Every P E := by
  have hi : ∀ earlier c, (ModelInstance.build d.owner earlier c).Every P E :=
    ModelInstance.every_build h
  exact (Traced.Every.collect hi [] d.decl.model).bind fun _ =>
    (h.every_noticeIf rfl _).bind fun _ => Traced.Every.pure _

theorem Alternative.every_ofDecl (h : Build.Permits owner.home P E) (jsonKey : Option String)
    (earlier : List Alternative) (d : AlternativeDecl) :
    (Alternative.ofDecl owner jsonKey earlier d).Every P E := by
  cases d with
  | assembly discriminator origin =>
    exact (Instance.every_build h .assembly _ _ _).bind fun _ => Traced.Every.pure _
  | field discriminator origin =>
    exact (Instance.every_build h .field _ _ _).bind fun _ => Traced.Every.pure _

theorem ChoiceGroup.every_buildAlternatives {g : ChoiceGroup}
    (h : Build.Permits g.owner.home P E) : g.buildAlternatives.Every P E := by
  have ha : ∀ earlier d, (Alternative.build g.owner g.head.jsonKey earlier d).Every P E :=
    fun earlier d => (Alternative.every_ofDecl h _ earlier d).bind fun _ =>
      (h.every_noticeIf rfl _).bind fun _ => Traced.Every.pure _
  exact (Traced.Every.collect ha [] _).bind fun _ =>
    (h.every_noticeIf rfl _).bind fun _ => Traced.Every.pure _

end

/-! ### Constraints -/

def Compiled.Fits (c : Compiled α) : Prop :=
  c.Every (fun e => e.isOfPart = true) fun _ => True

theorem Compiled.fits_ofExcept (x : Except ConstraintFault α) :
    Compiled.Fits (Traced.ofExcept x) :=
  Traced.Every.ofExcept fun _ _ => trivial

theorem fits_compileFlagHead (source : Source) (d : RuleHeadDecl) :
    (compileFlagHead source d).Fits := by
  unfold compileFlagHead
  cases d.target with
  | none => exact Traced.Every.pure _
  | some target =>
    dsimp only
    split
    · exact Traced.Every.pure _
    · have he : (Event.flagTarget source.shortName target).isOfPart = true := rfl
      have hs : Compiled.Fits (Traced.step (.flagTarget source.shortName target)) :=
        Traced.Every.step he
      exact hs.bind fun _ => Traced.Every.pure _

theorem fits_compileValueRule (r : Registry) (source : Source) (context : ValueContext)
    (d : RuleDecl ValueCheckDecl) : (compileValueRule r source context d).Fits := by
  refine (Compiled.fits_ofExcept _).bind fun check => ?_
  cases context with
  | flag => exact (fits_compileFlagHead source d.head).bind fun _ => Traced.Every.pure _
  | field => exact (Traced.Every.pure _).bind fun _ => Traced.Every.pure _

theorem fits_compileValueConstraints (r : Registry) (source : Source) (context : ValueContext)
    (d : ValueConstraintDecl) : (compileValueConstraints r source context d).Fits :=
  (Compiled.fits_ofExcept _).bind fun _ =>
    (Traced.Every.mapM (fits_compileValueRule r source context) _).bind fun _ =>
      (Traced.Every.step (by rfl)).bind fun _ => Traced.Every.pure _

theorem fits_compileModelConstraints (r : Registry) (source : Source) (d : ModelConstraintDecl) :
    (compileModelConstraints r source d).Fits := by
  have hr : ∀ rule, (compileModelRule r source rule).Fits :=
    fun _ => (Compiled.fits_ofExcept _).bind fun _ => Traced.Every.pure _
  exact (Compiled.fits_ofExcept _).bind fun _ => (Traced.Every.mapM hr _).bind fun _ =>
    (Traced.Every.step (by rfl)).bind fun _ => Traced.Every.pure _

section
variable {m : Module} {P : Step → Prop} {E : ModelFault → Prop}

theorem every_compiledFor {c : Compiled ConstraintSet} (hc : c.Fits)
    (hn : ∀ e : Event, e.isOfPart = true → P (.notice e))
    (hf : ∀ definition f, E (.constraint definition m.shortName f)) (definition : QName) :
    (compiledFor m definition c).Every P E := by
  refine ⟨?_, ?_⟩
  · intro s hs
    obtain ⟨e, he, rfl⟩ := List.mem_map.mp hs
    exact hn e (hc.steps e he)
  · intro e he
    unfold compiledFor Traced.mapStep Traced.mapFault at he
    dsimp only at he
    split at he
    · exact absurd he (by simp)
    · cases he
      exact hf _ _

theorem Placed.every_buildConstraints {k : Kind} (d : Placed k)
    (hn : ∀ e : Event, e.isOfPart = true → P (.notice e))
    (hf : ∀ definition f, E (.constraint definition d.home.shortName f)) :
    (buildConstraints k d).Every P E := by
  cases k with
  | assembly =>
    dsimp only [buildConstraints]
    split
    · exact every_compiledFor (fits_compileModelConstraints _ _ _) hn hf _
    · exact Traced.Every.pure _
  | field =>
    dsimp only [buildConstraints]
    split
    · exact every_compiledFor (fits_compileValueConstraints _ _ _ _) hn hf _
    · exact Traced.Every.pure _
  | flag =>
    dsimp only [buildConstraints]
    split
    · exact every_compiledFor (fits_compileValueConstraints _ _ _ _) hn hf _
    · exact Traced.Every.pure _

end

/-! ### Builders fit their module -/

theorem Module.fits_resolve (m : Module) (k : Kind) (reference : String) (containing : QName) :
    (m.resolve k reference containing).Fits m :=
  every_resolve (Build.permits_fits m) k reference containing

theorem FlagSet.fits_build (owner : Owner) (jsonKey : Option String)
    (children : List FlagChildDecl) : (FlagSet.build owner jsonKey children).Fits owner.home :=
  every_build (Build.permits_fits owner.home) jsonKey children

theorem Placed.fits_buildFieldFlags (d : Placed .field) : d.buildFieldFlags.Fits d.home :=
  every_buildFieldFlags (Build.permits_fits d.home)

theorem Placed.fits_buildModel (d : Placed .assembly) : d.buildModel.Fits d.home :=
  every_buildModel (Build.permits_fits d.home)

theorem ChoiceGroup.fits_buildAlternatives (g : ChoiceGroup) :
    g.buildAlternatives.Fits g.owner.home :=
  every_buildAlternatives (Build.permits_fits g.owner.home)

theorem Placed.fits_buildConstraints {k : Kind} (d : Placed k) (m : Module) :
    (buildConstraints k d).Fits m :=
  every_buildConstraints d (fun _ he => he) fun _ _ => trivial

end InfoModel

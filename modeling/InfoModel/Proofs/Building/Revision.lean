import InfoModel.Model.Resolution
import InfoModel.Proofs.Visibility.Revision

/-!
# Building in revised modules

What is built for a declaration is, revised, what is built for the revised declaration in the
revised module; what could not be built fails for the same reason. So a part depends on no more of
the declarations around it than a revision keeps. Main statements: `FlagSet.restates_build`,
`FlagSet.restates_buildOfField`, `Model.restates_build`, `Alternatives.restates_build`.
-/

namespace InfoModel

/-! ### Outcomes restated -/

namespace Traced
variable {σ ε α β γ δ : Type}

/-- The outcome of `y` is that of `x`, with what it holds restated by `f`. -/
def Restates (f : α → β) (x : Traced σ ε α) (y : Traced σ ε β) : Prop :=
  y.outcome = x.outcome.map f

theorem Restates.pure (f : α → β) (a : α) :
    Restates f (pure a : Traced σ ε α) (pure (f a)) := rfl

theorem Restates.bind {f : α → β} {g : γ → δ} {x : Traced σ ε α} {y : Traced σ ε β}
    {k : α → Traced σ ε γ} {k' : β → Traced σ ε δ} (hx : Restates f x y)
    (hk : ∀ a, Restates g (k a) (k' (f a))) : Restates g (x >>= k) (y >>= k') := by
  unfold Restates at hx ⊢
  rw [outcome_bind, outcome_bind, hx]
  cases x.outcome with
  | error e => rfl
  | ok a => exact hk a

theorem Restates.bind_same {g : γ → δ} {x y : Traced σ ε α} {k : α → Traced σ ε γ}
    {k' : α → Traced σ ε δ} (hx : y.outcome = x.outcome) (hk : ∀ a, Restates g (k a) (k' a)) :
    Restates g (x >>= k) (y >>= k') := by
  have hx' : Restates id x y := by
    unfold Restates
    rw [hx]
    cases x.outcome with
    | error e => rfl
    | ok a => rfl
  exact hx'.bind hk

theorem Restates.outcome_map_eq {f : α → β} {x x' : Traced σ ε α} {y y' : Traced σ ε β}
    (hx : Restates f x y) (hx' : Restates f x' y') (hy : y.outcome = y'.outcome) :
    x.outcome.map f = x'.outcome.map f := by
  unfold Restates at hx hx'
  rw [← hx, ← hx', hy]

theorem Restates.collect {f : α → β} {c : γ → δ} {make : List α → γ → Traced σ ε α}
    {make' : List β → δ → Traced σ ε β}
    (h : ∀ made a, Restates f (make made a) (make' (made.map f) (c a))) (made : List α)
    (as : List γ) :
    Restates (List.map f) (Traced.collect make made as)
      (Traced.collect make' (made.map f) (as.map c)) := by
  induction as generalizing made with
  | nil => rfl
  | cons a as ih =>
    refine (h made a).bind fun b => ?_
    have hl : made.map f ++ [f b] = (made ++ [b]).map f := by simp
    rw [hl]
    exact ih (made ++ [b])

end Traced

/-! ### Revised declarations -/

def OriginDecl.map {δ ε : Type} (f : δ → ε) : OriginDecl δ → OriginDecl ε
  | .reference r => .reference r
  | .inline d => .inline (f d)

theorem OriginDecl.form_map {δ ε : Type} (f : δ → ε) (o : OriginDecl δ) :
    (o.map f).form = o.form := by
  cases o <;> rfl

theorem OriginDecl.readDefault_map {δ ε : Type} (f : δ → ε) (o : OriginDecl δ) (d : Datatype) :
    (o.map f).readDefault d = o.readDefault d := by
  cases o <;> rfl

theorem OriginDecl.map_id {δ : Type} (o : OriginDecl δ) : o.map (fun d => d) = o := by
  cases o <;> rfl

section
variable (v : Revision)

def FlagChildDecl.revise (c : FlagChildDecl) : FlagChildDecl :=
  { c with origin := c.origin.map (v.decl .flag) }

def NamedChildDecl.revise : NamedChildDecl → NamedChildDecl
  | .assembly use origin => .assembly use (origin.map (v.decl .assembly))
  | .field use inXml origin => .field use inXml (origin.map (v.decl .field))

/-- A revised child of a model. The definitions of choices stand in their bodies; those of a group
are among its alternatives. -/
def ModelChildDecl.revise : ModelChildDecl → ModelChildDecl
  | .named child => .named (child.revise v)
  | .choice children => .choice (children.map (NamedChildDecl.revise v))
  | .group head alternatives => .group head (v.alternatives alternatives)

def AlternativeDecl.revise : AlternativeDecl → AlternativeDecl
  | .assembly discriminator origin => .assembly discriminator (origin.map (v.decl .assembly))
  | .field discriminator origin => .field discriminator (origin.map (v.decl .field))

/-! ### What is built, revised -/

def Owner.revise (o : Owner) : Owner := { o with home := o.home.revise v }

def Instance.revise {k : Kind} (i : Instance k) : Instance k :=
  { i with definition := i.definition.revise v }

def FlagInstance.revise (i : FlagInstance) : FlagInstance := { i with base := i.base.revise v }

def FlagSet.revise (s : FlagSet) : FlagSet :=
  { s with instances := s.instances.map (FlagInstance.revise v) }

def Element.revise : Element → Element
  | .assembly i => .assembly (i.revise v)
  | .field i => .field (i.revise v)

def NamedInstance.revise : NamedInstance → NamedInstance
  | .assembly i => .assembly { i with base := i.base.revise v }
  | .field i => .field { i with base := i.base.revise v }

def ChoiceGroup.revise (g : ChoiceGroup) : ChoiceGroup :=
  { g with alternatives := v.alternatives g.alternatives, owner := g.owner.revise v }

def ModelInstance.revise : ModelInstance → ModelInstance
  | .named i => .named (i.revise v)
  | .choice c => .choice { c with body := c.body.map (NamedInstance.revise v) }
  | .group g => .group (g.revise v)

def Model.revise (m : Model) : Model := ⟨m.instances.map (ModelInstance.revise v)⟩

def Alternative.revise (a : Alternative) : Alternative := { a with element := a.element.revise v }

def Alternatives.revise (as : Alternatives) : Alternatives :=
  ⟨as.instances.map (Alternative.revise v)⟩

end

theorem Placed.owner_revise {k : Kind} (v : Revision) (d : Placed k) :
    (d.revise v).owner = d.owner.revise v := by
  unfold owner
  rw [d.name_revise v]
  rfl

/-! ### References and instances -/

variable (v : Revision)

theorem Module.restates_resolve (m : Module) (k : Kind) (reference : String) (containing : QName) :
    Traced.Restates (Placed.revise v) (m.resolve k reference containing)
      ((m.revise v).resolve k reference containing) := by
  unfold resolve
  rw [referenceName_revise]
  refine Traced.Restates.bind_same rfl fun name => ?_
  have hfind : Traced.Restates (Option.map (Placed.revise v)) (m.find k name)
      ((m.revise v).find k name) := by
    rw [find_eq, find_eq, visible?_revise]
    rfl
  refine hfind.bind fun found => ?_
  rw [shortName_revise]
  cases found with
  | none => rfl
  | some d => rfl

theorem Kind.instanceSpace_revise (m : Module) (k : Kind) :
    k.instanceSpace (m.revise v) = k.instanceSpace m := by
  cases k with
  | flag => rfl
  | field => exact Module.space_revise v m
  | assembly => exact Module.space_revise v m

theorem Instance.restates_ofReference (k : Kind) (owner : Owner) (position : Nat)
    (r : ReferenceDecl) :
    Traced.Restates (Instance.revise v) (ofReference k owner position r)
      (ofReference k (owner.revise v) position r) := by
  refine (owner.home.restates_resolve v k r.reference owner.definition).bind fun d => ?_
  rw [d.head_revise v]
  refine Traced.Restates.bind_same ?_ fun name => Traced.Restates.pure _ _
  show (Build.basic (QName.make (k.instanceSpace (owner.home.revise v)) _)).outcome = _
  rw [Kind.instanceSpace_revise]

theorem Instance.restates_ofDefinition (k : Kind) (owner : Owner) (site : Site) (position : Nat)
    (decl : k.Decl) :
    Traced.Restates (Instance.revise v) (ofDefinition k owner site position decl)
      (ofDefinition k (owner.revise v) site position (v.decl k decl)) := by
  have hd : Traced.Restates (v.definition k)
      (Build.basic (k.prepare owner.home.info.setup.registry owner.home.info.source none decl))
      (Build.basic (k.prepare (owner.home.revise v).info.setup.registry
        (owner.home.revise v).info.source none (v.decl k decl))) := by
    rw [Module.registry_revise, Module.source_revise, v.prepare]
    cases k.prepare owner.home.info.setup.registry owner.home.info.source none decl with
    | error e => rfl
    | ok d => rfl
  refine hd.bind fun d => ?_
  dsimp only
  rw [v.head]
  refine Traced.Restates.bind_same ?_ fun name => Traced.Restates.pure _ _
  show (Build.basic (QName.make (k.instanceSpace (owner.home.revise v)) _)).outcome = _
  rw [Kind.instanceSpace_revise]

theorem Instance.restates_build (k : Kind) (owner : Owner) (site : Site) (position : Nat)
    (origin : OriginDecl k.Decl) :
    Traced.Restates (Instance.revise v) (Instance.build k owner site position origin)
      (Instance.build k (owner.revise v) site position (origin.map (v.decl k))) := by
  cases origin with
  | reference r => exact restates_ofReference v k owner position r
  | inline decl => exact restates_ofDefinition v k owner site position decl

theorem FlagInstance.restates_build (owner : Owner) (earlier : List FlagInstance)
    (d : FlagChildDecl) :
    Traced.Restates (FlagInstance.revise v) (FlagInstance.build owner earlier d)
      (FlagInstance.build (owner.revise v) (earlier.map (FlagInstance.revise v))
        (d.revise v)) := by
  have hp : ((earlier.map (FlagInstance.revise v)).filter
      fun i => i.base.form = d.origin.form).length =
      (earlier.filter fun i => i.base.form = d.origin.form).length := by
    rw [List.filter_map, List.length_map]
    rfl
  unfold FlagInstance.build FlagChildDecl.revise
  dsimp only
  rw [OriginDecl.form_map, hp, List.length_map]
  refine (Instance.restates_build v .flag owner _ _ d.origin).bind fun base => ?_
  have hv : (base.revise v).definition.definition.value = base.definition.definition.value :=
    v.flagValue base.definition.definition
  rw [hv, OriginDecl.readDefault_map]
  refine Traced.Restates.bind_same rfl fun ownDefault => ?_
  exact Traced.Restates.bind_same rfl fun _ => Traced.Restates.pure _ _

theorem countElements_revise (kind : Kind) (form : Form) (es : List Element) :
    countElements kind form (es.map (Element.revise v)) = countElements kind form es := by
  unfold countElements
  rw [List.filter_map, List.length_map]
  congr 1
  refine List.filter_congr ?_
  intro e _
  cases e with
  | assembly i => rfl
  | field i => rfl

theorem NamedInstance.element_revise (i : NamedInstance) :
    (i.revise v).element = i.element.revise v := by
  cases i with
  | assembly i => rfl
  | field i => rfl

theorem NamedInstance.elements_revise (is : List NamedInstance) :
    (is.map (NamedInstance.revise v)).map element = (is.map element).map (Element.revise v) := by
  rw [List.map_map, List.map_map]
  exact List.map_congr_left fun i _ => element_revise v i

theorem NamedInstance.restates_ofDecl (owner : Owner) (site : Site) (earlier : List NamedInstance)
    (d : NamedChildDecl) :
    Traced.Restates (NamedInstance.revise v) (NamedInstance.ofDecl owner site earlier d)
      (NamedInstance.ofDecl (owner.revise v) site (earlier.map (NamedInstance.revise v))
        (d.revise v)) := by
  cases d with
  | assembly use origin =>
    unfold NamedInstance.ofDecl NamedChildDecl.revise
    dsimp only
    rw [elements_revise, countElements_revise, OriginDecl.form_map]
    refine (Instance.restates_build v .assembly owner site _ origin).bind fun base => ?_
    exact Traced.Restates.bind_same rfl fun occurrence => Traced.Restates.pure _ _
  | field use inXml origin =>
    unfold NamedInstance.ofDecl NamedChildDecl.revise
    dsimp only
    rw [elements_revise, countElements_revise, OriginDecl.form_map]
    refine (Instance.restates_build v .field owner site _ origin).bind fun base => ?_
    have hv : (base.revise v).definition.definition.value = base.definition.definition.value :=
      v.fieldValue base.definition.definition
    rw [hv, OriginDecl.readDefault_map]
    refine Traced.Restates.bind_same rfl fun ownDefault => ?_
    exact Traced.Restates.bind_same rfl fun occurrence => Traced.Restates.pure _ _

theorem NamedInstance.restates_build (owner : Owner) (site : Site) (earlier : List NamedInstance)
    (d : NamedChildDecl) :
    Traced.Restates (NamedInstance.revise v) (NamedInstance.build owner site earlier d)
      (NamedInstance.build (owner.revise v) site (earlier.map (NamedInstance.revise v))
        (d.revise v)) :=
  (restates_ofDecl v owner site earlier d).bind fun _ =>
    Traced.Restates.bind_same rfl fun _ => Traced.Restates.pure _ _

/-! ### Flags -/

theorem FlagSet.flag?_revise (s : FlagSet) (name : String) :
    (s.revise v).flag? name = (s.flag? name).map (FlagInstance.revise v) := by
  have hk : ∀ i : FlagInstance, (i.revise v).localName = i.localName := fun _ => rfl
  unfold flag? byName
  show (NamedMap.byKey FlagInstance.localName (s.instances.map (FlagInstance.revise v))).get?
    name = _
  rw [NamedMap.byKey_map (FlagInstance.revise v) hk, NamedMap.get?_mapValues]

theorem FlagSet.restates_require {s : FlagSet} {name : String} {fault fault' : ModelFault}
    (hf : fault' = fault) {rest rest' : Unit → Build FlagSet}
    (hrest : ∀ u, Traced.Restates (FlagSet.revise v) (rest u) (rest' u)) :
    Traced.Restates (FlagSet.revise v)
      (if (s.flag? name).isNone then Traced.fail fault >>= rest else rest ())
      (if ((s.revise v).flag? name).isNone then Traced.fail fault' >>= rest' else rest' ()) := by
  rw [flag?_revise, Option.isNone_map, hf]
  split
  · exact Traced.Restates.bind_same rfl hrest
  · exact hrest ()

theorem FlagSet.restates_build (owner : Owner) (jsonKey : Option String)
    (children : List FlagChildDecl) :
    Traced.Restates (FlagSet.revise v) (FlagSet.build owner jsonKey children)
      (FlagSet.build (owner.revise v) jsonKey (children.map (FlagChildDecl.revise v))) := by
  unfold FlagSet.build
  refine (Traced.Restates.collect (FlagInstance.restates_build v owner) [] children).bind
    fun instances => ?_
  have hs : (⟨instances.map (FlagInstance.revise v), jsonKey⟩ : FlagSet) =
      FlagSet.revise v ⟨instances, jsonKey⟩ := rfl
  have hrest : ∀ _ : Unit, Traced.Restates (FlagSet.revise v) (do
      Build.noticeIf (!children.isEmpty) (.builtFlags owner.definition.text instances.length)
      return (⟨instances, jsonKey⟩ : FlagSet)) (do
      Build.noticeIf (!(children.map (FlagChildDecl.revise v)).isEmpty)
        (.builtFlags owner.definition.text (instances.map (FlagInstance.revise v)).length)
      return FlagSet.revise v ⟨instances, jsonKey⟩) :=
    fun _ => Traced.Restates.bind_same rfl fun _ => Traced.Restates.pure _ _
  dsimp only
  rw [hs]
  cases jsonKey with
  | none => exact hrest ()
  | some key =>
    refine restates_require v ?_ hrest
    rw [← Module.shortName_revise v owner.home]
    rfl

def FlagSet.buildOfField (owner : Owner) (jsonKey jsonValueKeyFlag : Option String)
    (children : List FlagChildDecl) : Build FlagSet := do
  let s ← FlagSet.build owner jsonKey children
  if let some key := jsonValueKeyFlag then
    if (s.flag? key).isNone then
      .fail (.invalidJsonValueKeyFlag key owner.definition.text owner.home.shortName)
  return s

theorem FlagSet.restates_buildOfField (owner : Owner) (jsonKey jsonValueKeyFlag : Option String)
    (children : List FlagChildDecl) :
    Traced.Restates (FlagSet.revise v)
      (FlagSet.buildOfField owner jsonKey jsonValueKeyFlag children)
      (FlagSet.buildOfField (owner.revise v) jsonKey jsonValueKeyFlag
        (children.map (FlagChildDecl.revise v))) := by
  refine (FlagSet.restates_build v owner jsonKey children).bind fun s => ?_
  cases jsonValueKeyFlag with
  | none => exact Traced.Restates.pure _ s
  | some key =>
    refine restates_require v ?_ fun _ => Traced.Restates.pure _ s
    rw [← Module.shortName_revise v owner.home]
    rfl

/-! ### Models -/

theorem ModelInstance.filterMap_revise {f : ModelInstance → Option α} {g : α → α}
    (h : ∀ i : ModelInstance, f (i.revise v) = (f i).map g) (is : List ModelInstance) :
    (is.map (ModelInstance.revise v)).filterMap f = (is.filterMap f).map g := by
  rw [List.filterMap_map, List.map_filterMap]
  exact List.filterMap_congr fun i _ => h i

theorem ChoiceGroup.restates_build (owner : Owner) (site : Site) (earlier : List ChoiceGroup)
    (head : GroupHeadDecl) (alternatives : List AlternativeDecl) :
    Traced.Restates (ChoiceGroup.revise v) (ChoiceGroup.build owner site earlier head alternatives)
      (ChoiceGroup.build (owner.revise v) site (earlier.map (ChoiceGroup.revise v)) head
        (v.alternatives alternatives)) := by
  unfold ChoiceGroup.build
  rw [List.length_map]
  exact Traced.Restates.bind_same rfl fun _ =>
    Traced.Restates.bind_same rfl fun _ => Traced.Restates.pure _ _

theorem ModelInstance.restates_build (owner : Owner) (earlier : List ModelInstance)
    (d : ModelChildDecl) :
    Traced.Restates (ModelInstance.revise v) (ModelInstance.build owner earlier d)
      (ModelInstance.build (owner.revise v) (earlier.map (ModelInstance.revise v))
        (d.revise v)) := by
  have hn : (earlier.map (ModelInstance.revise v)).filterMap named? =
      (earlier.filterMap named?).map (NamedInstance.revise v) :=
    filterMap_revise v (fun i => by cases i <;> rfl) earlier
  have hc : ((earlier.map (ModelInstance.revise v)).filterMap choice?).length =
      (earlier.filterMap choice?).length := by
    have hm : (earlier.map (ModelInstance.revise v)).filterMap choice? =
        (earlier.filterMap choice?).map
          fun c => { c with body := c.body.map (NamedInstance.revise v) } :=
      filterMap_revise v (fun i => by cases i <;> rfl) earlier
    rw [hm, List.length_map]
  have hg : (earlier.map (ModelInstance.revise v)).filterMap group? =
      (earlier.filterMap group?).map (ChoiceGroup.revise v) :=
    filterMap_revise v (fun i => by cases i <;> rfl) earlier
  unfold ModelInstance.build ModelChildDecl.revise
  rw [List.length_map]
  cases d with
  | named child =>
    dsimp only
    rw [hn]
    exact (NamedInstance.restates_build v owner _ _ child).bind fun _ => Traced.Restates.pure _ _
  | choice children =>
    dsimp only
    rw [hc]
    refine (Traced.Restates.collect ?_ [] children).bind fun _ => Traced.Restates.pure _ _
    intro made child
    rw [List.length_map]
    exact NamedInstance.restates_build v owner _ made child
  | group head alternatives =>
    dsimp only
    rw [hg]
    exact (ChoiceGroup.restates_build v owner _ _ head alternatives).bind
      fun _ => Traced.Restates.pure _ _

def Model.build (owner : Owner) (children : List ModelChildDecl) : Build Model := do
  let instances ← Traced.collect (ModelInstance.build owner) [] children
  .noticeIf (!children.isEmpty) (.builtModel owner.definition.text instances.length)
  return ⟨instances⟩

theorem Model.restates_build (owner : Owner) (children : List ModelChildDecl) :
    Traced.Restates (Model.revise v) (Model.build owner children)
      (Model.build (owner.revise v) (children.map (ModelChildDecl.revise v))) :=
  (Traced.Restates.collect (ModelInstance.restates_build v owner) [] children).bind
    fun _ => Traced.Restates.bind_same rfl fun _ => Traced.Restates.pure _ _

/-! ### Alternatives -/

theorem Alternative.elements_revise (as : List Alternative) :
    (as.map (Alternative.revise v)).map element = (as.map element).map (Element.revise v) := by
  rw [List.map_map, List.map_map]
  rfl

theorem Alternative.restates_ofDecl (owner : Owner) (jsonKey : Option String)
    (earlier : List Alternative) (d : AlternativeDecl) :
    Traced.Restates (Alternative.revise v) (Alternative.ofDecl owner jsonKey earlier d)
      (Alternative.ofDecl (owner.revise v) jsonKey (earlier.map (Alternative.revise v))
        (d.revise v)) := by
  cases d with
  | assembly discriminator origin =>
    unfold Alternative.ofDecl AlternativeDecl.revise
    dsimp only
    rw [elements_revise, countElements_revise, List.length_map, OriginDecl.form_map]
    exact (Instance.restates_build v .assembly owner _ _ origin).bind fun _ =>
      Traced.Restates.pure _ _
  | field discriminator origin =>
    unfold Alternative.ofDecl AlternativeDecl.revise
    dsimp only
    rw [elements_revise, countElements_revise, List.length_map, OriginDecl.form_map]
    exact (Instance.restates_build v .field owner _ _ origin).bind fun _ =>
      Traced.Restates.pure _ _

def Alternatives.build (owner : Owner) (jsonKey : Option String)
    (alternatives : List AlternativeDecl) : Build Alternatives := do
  let instances ← Traced.collect (Alternative.build owner jsonKey) [] alternatives
  let as : Alternatives := ⟨instances⟩
  .noticeIf (!alternatives.isEmpty) (.builtAlternatives owner.definition.text as.size)
  return as

theorem Alternatives.restates_build (owner : Owner) (jsonKey : Option String)
    (alternatives : List AlternativeDecl) :
    Traced.Restates (Alternatives.revise v) (Alternatives.build owner jsonKey alternatives)
      (Alternatives.build (owner.revise v) jsonKey
        (alternatives.map (AlternativeDecl.revise v))) := by
  have ha : ∀ earlier d, Traced.Restates (Alternative.revise v)
      (Alternative.build owner jsonKey earlier d)
      (Alternative.build (owner.revise v) jsonKey (earlier.map (Alternative.revise v))
        (d.revise v)) :=
    fun earlier d => (Alternative.restates_ofDecl v owner jsonKey earlier d).bind fun _ =>
      Traced.Restates.bind_same rfl fun _ => Traced.Restates.pure _ _
  exact (Traced.Restates.collect ha [] alternatives).bind fun _ =>
    Traced.Restates.bind_same rfl fun _ => Traced.Restates.pure _ _

/-! ### Parts of definitions -/

theorem Placed.buildFieldFlags_eq (d : Placed .field) :
    d.buildFieldFlags =
      FlagSet.buildOfField d.owner d.decl.jsonKey d.decl.jsonValueKeyFlag d.decl.flags := rfl

theorem Placed.buildModel_eq (d : Placed .assembly) :
    d.buildModel = Model.build d.owner d.decl.model := rfl

end InfoModel

import InfoModel.Proofs.Building.Written
import InfoModel.Proofs.Query.Commute

/-!
# Definitions belong to the module they are written in

From what a module sees, ways lead to definitions at any depth: into definitions, choices and
groups, and along references into other modules. Wherever a way leads, a definition belongs to the
module it is written in. It has that module's namespace and source, its references mean what they
mean there, and its parts are the same for whoever asks. Main statement: `Module.owned_lexically`.
-/

namespace InfoModel

/-! ### Names and sources -/

def Kind.names : (k : Kind) → k.Definition → List QName
  | .assembly, d => d.head.name :: d.head.effectiveName :: d.rootName.toList
  | .field, d => [d.head.name, d.head.effectiveName]
  | .flag, d => [d.head.name, d.head.effectiveName]

theorem DefinitionHead.space_of_prepare {source : Source} {position : Option Nat}
    {d : DefinitionHeadDecl} {head : DefinitionHead} (h : prepare source position d = .ok head) :
    ∀ n ∈ [head.name, head.effectiveName],
      n.space = source.context.defaultSpace.filter fun s => !s.isEmpty := by
  obtain ⟨hname, heffective, -⟩ := DefinitionHead.of_prepare h
  refine List.forall_mem_cons.mpr ⟨(QName.of_make hname).1, ?_⟩
  exact List.forall_mem_singleton.mpr (QName.of_make heffective).1

theorem Kind.space_of_prepare {r : Registry} {source : Source} {position : Option Nat} {k : Kind}
    {d : k.Decl} {definition : k.Definition} (h : k.prepare r source position d = .ok definition) :
    ∀ n ∈ k.names definition,
      n.space = source.context.defaultSpace.filter fun s => !s.isEmpty := by
  cases k with
  | assembly =>
    obtain ⟨head, hh, h⟩ := Except.bind_eq_ok_iff.mp h
    obtain ⟨rootName, hr, h⟩ := Except.bind_eq_ok_iff.mp h
    cases h
    have hhead := DefinitionHead.space_of_prepare hh
    refine List.forall_mem_cons.mpr ⟨hhead _ List.mem_cons_self, ?_⟩
    refine List.forall_mem_cons.mpr ⟨hhead _ (List.mem_cons_of_mem _ List.mem_cons_self), ?_⟩
    intro n hn
    cases hroot : d.rootName with
    | none =>
      rw [hroot] at hr
      cases hr
      exact absurd hn List.not_mem_nil
    | some root =>
      rw [hroot] at hr
      obtain ⟨name, hname, hr⟩ := Except.map_eq_ok_iff.mp hr
      cases hr
      rw [Option.mem_toList] at hn
      cases hn
      exact (QName.of_make hname).1
  | field =>
    obtain ⟨head, hh, h⟩ := Except.bind_eq_ok_iff.mp h
    obtain ⟨value, -, h⟩ := Except.bind_eq_ok_iff.mp h
    cases h
    exact DefinitionHead.space_of_prepare hh
  | flag =>
    obtain ⟨head, hh, h⟩ := Except.bind_eq_ok_iff.mp h
    obtain ⟨value, -, h⟩ := Except.bind_eq_ok_iff.mp h
    cases h
    exact DefinitionHead.space_of_prepare hh

theorem Kind.source_of_prepare {r : Registry} {source : Source} {position : Option Nat} {k : Kind}
    {d : k.Decl} {definition : k.Definition} (h : k.prepare r source position d = .ok definition) :
    (k.head definition).source = source := by
  obtain ⟨-, -, -, -, hsource⟩ := DefinitionHead.of_prepare (Kind.headDecl_of_prepare h)
  exact hsource

/-- The definition is written in the module `m`: it belongs to `m`, and its names and its source are
those of `m`. -/
structure Placed.OwnedBy (m : Module) {k : Kind} (d : Placed k) : Prop where
  home : d.home = m
  source : d.head.source = m.info.source
  names : ∀ n ∈ k.names d.definition, n.space = m.qualifier

theorem Placed.ownedBy_of_prepare {m : Module} {k : Kind} {d : Placed k} (hd : d.home = m)
    {r : Registry} {position : Option Nat} {decl : k.Decl}
    (h : k.prepare r m.info.source position decl = .ok d.definition) : d.OwnedBy m :=
  ⟨hd, Kind.source_of_prepare h, Kind.space_of_prepare h⟩

theorem Definitions.mem_entries_put {ds : Definitions} {k k' : Kind} {d : k.Definition}
    {e : QName × k'.Definition} (h : e ∈ ((ds.put k d).ofKind k').entries) :
    e ∈ (ds.ofKind k').entries ∨ ∃ hk : k = k', e.2 = hk ▸ d := by
  by_cases hk : k = k'
  · subst hk
    rw [ofKind_put_self] at h
    rcases NamedMap.mem_entries_insert h with rfl | h
    · exact .inr ⟨rfl, rfl⟩
    · exact .inl h
  · rw [ofKind_put_of_ne (Ne.symm hk)] at h
    exact .inl h

def Definitions.PreparedFor (source : Source) (ds : Definitions) : Prop :=
  ∀ k, ∀ e ∈ (ds.ofKind k).entries, ∃ r position decl, k.prepare r source position decl = .ok e.2

theorem Definitions.PreparedFor.declare {r : Registry} {source : Source} {ds ds' : Definitions}
    {d : DefinitionDecl} (h : ds.PreparedFor source) (hd : ds.declare r source d = .ok ds') :
    ds'.PreparedFor source := by
  obtain ⟨definition, hp, -, rfl⟩ := declare_eq_ok_iff.mp hd
  intro k e he
  rcases mem_entries_put he with he | ⟨rfl, he⟩
  · exact h k e he
  · rw [he]
    exact ⟨r, _, d.definition, hp⟩

namespace Module

theorem Built.preparedFor {m : Module} (h : m.Built) :
    m.info.definitions.PreparedFor m.info.source := by
  obtain ⟨assembled, -, -⟩ := h
  obtain ⟨jsonBaseUri, -, h⟩ := Except.bind_eq_ok_iff.mp assembled
  obtain ⟨definitions, hd, h⟩ := Except.bind_eq_ok_iff.mp h
  cases h
  refine Except.foldlM_keeps (fun _ _ _ hb hs => Definitions.PreparedFor.declare hb hs) ?_ hd
  intro k e he
  cases k <;> exact absurd he List.not_mem_nil

theorem Built.ownedBy_of_mem_own {m : Module} (h : m.Built) {k : Kind} {d : Placed k}
    (hd : d ∈ m.own k) : d.OwnedBy m := by
  obtain ⟨e, he, rfl⟩ := mem_own_iff.mp hd
  obtain ⟨r, position, decl, hp⟩ := h.preparedFor k e he
  exact Placed.ownedBy_of_prepare rfl hp

end Module

/-! ### Uses -/

abbrev Use := (k : Kind) × Instance k

def Use.held? (u : Use) : Option Occupant := u.2.held?

/-- The instance stands for what is written somewhere in the module. -/
def Use.WrittenIn (m : Module) (u : Use) : Prop := ∃ origin, u.2.WrittenIn m u.1 origin

def Element.use : Element → Use
  | .assembly i => ⟨.assembly, i⟩
  | .field i => ⟨.field, i⟩

def FlagSet.uses (s : FlagSet) : List Use := s.instances.map fun i => ⟨.flag, i.base⟩

/-- The use that a child of a model makes itself; what a choice is between, the choice uses. -/
def ModelInstance.uses : ModelInstance → List Use
  | .named i => [i.element.use]
  | .choice _ => []
  | .group _ => []

def Model.uses (m : Model) : List Use := m.instances.flatMap ModelInstance.uses

def Alternatives.uses (as : Alternatives) : List Use := as.instances.map fun a => a.element.use

def Occupant.uses : Occupant → List Use
  | .definition .assembly d =>
    d.assemblyFlags.content?.elim [] FlagSet.uses ++ d.model.content?.elim [] Model.uses
  | .definition .field d => d.fieldFlags.content?.elim [] FlagSet.uses
  | .definition .flag _ => []
  | .choice _ _ c => c.body.map fun i => i.element.use
  | .group g => g.content.content?.elim [] Alternatives.uses

theorem exists_of_forall₂ {R : α → β → Prop} {as : List α} {bs : List β} (h : List.Forall₂ R as bs)
    {b : β} (hb : b ∈ bs) : ∃ a, R a b := by
  induction h with
  | nil => exact absurd hb List.not_mem_nil
  | cons hab _ ih =>
    rcases List.mem_cons.mp hb with rfl | hb
    · exact ⟨_, hab⟩
    · exact ih hb

theorem NamedInstance.WrittenIn.use {m : Module} {d : NamedChildDecl} {i : NamedInstance}
    (h : i.WrittenIn m d) : i.element.use.WrittenIn m := by
  cases h with
  | assembly base => exact ⟨_, base⟩
  | field base => exact ⟨_, base⟩

theorem FlagSet.WrittenIn.use {m : Module} {children : List FlagChildDecl} {s : FlagSet}
    (h : s.WrittenIn m children) {u : Use} (hu : u ∈ s.uses) : u.WrittenIn m := by
  obtain ⟨i, hi, rfl⟩ := List.mem_map.mp hu
  obtain ⟨c, hc⟩ := exists_of_forall₂ h hi
  exact ⟨c.origin, hc⟩

theorem Model.WrittenIn.use {m : Module} {children : List ModelChildDecl} {model : Model}
    (h : model.WrittenIn m children) {u : Use} (hu : u ∈ model.uses) : u.WrittenIn m := by
  obtain ⟨i, hi, hu⟩ := List.mem_flatMap.mp hu
  obtain ⟨c, hc⟩ := exists_of_forall₂ h hi
  cases hc with
  | named hnamed =>
    rw [List.mem_singleton.mp hu]
    exact hnamed.use
  | choice _ => exact absurd hu List.not_mem_nil
  | group _ _ => exact absurd hu List.not_mem_nil

theorem Alternatives.WrittenIn.use {m : Module} {ds : List AlternativeDecl} {as : Alternatives}
    (h : as.WrittenIn m ds) {u : Use} (hu : u ∈ as.uses) : u.WrittenIn m := by
  obtain ⟨a, ha, rfl⟩ := List.mem_map.mp hu
  obtain ⟨d, hd⟩ := exists_of_forall₂ h ha
  cases hd with
  | assembly base => exact ⟨_, base⟩
  | field base => exact ⟨_, base⟩

namespace Occupant
variable {x : Occupant} {u : Use}

/-! ### Uses that hold their definition -/

theorem held?_use (e : Element) : e.use.held? = e.held? := by
  cases e <;> rfl

theorem mem_held_flags {s : FlagSet} {y : Occupant} :
    some y ∈ s.held ↔ ∃ u ∈ s.uses, u.held? = some y := by
  unfold FlagSet.held FlagSet.uses
  simp [Use.held?]

theorem mem_held_model_definition {home : Module} {site : Site} {m : Model} {k : Kind}
    {d : Placed k} : some (.definition k d) ∈ m.held home site ↔
      ∃ u ∈ m.uses, u.held? = some (.definition k d) := by
  constructor
  · intro h
    obtain ⟨n, i, hi, hd⟩ := mem_held_model h
    cases i with
    | named j =>
      refine ⟨j.element.use, List.mem_flatMap.mpr ⟨_, hi, List.mem_singleton_self _⟩, ?_⟩
      rw [held?_use]
      exact hd
    | choice c => cases hd
    | group g => cases hd
  · rintro ⟨u, hu, hd⟩
    obtain ⟨i, hi, hu⟩ := List.mem_flatMap.mp hu
    cases i with
    | named j =>
      rw [List.mem_singleton.mp hu, held?_use] at hd
      obtain ⟨n, hn, hj⟩ := List.mem_iff_getElem.mp hi
      refine List.mem_mapIdx.mpr ⟨n, hn, ?_⟩
      rw [hj]
      exact hd
    | choice c => exact absurd hu List.not_mem_nil
    | group g => exact absurd hu List.not_mem_nil

theorem mem_elim_iff {p : Part α} {held : α → List (Option Occupant)} {uses : α → List Use}
    {y : Occupant} (h : ∀ a, some y ∈ held a ↔ ∃ u ∈ uses a, u.held? = some y) :
    some y ∈ p.content?.elim [] held ↔ ∃ u ∈ p.content?.elim [] uses, u.held? = some y := by
  cases p.content? with
  | none => simp
  | some a => exact h a

theorem mem_map_use_iff {es : List Element} {y : Occupant} :
    some y ∈ es.map Element.held? ↔ ∃ u ∈ es.map Element.use, u.held? = some y := by
  simp [held?_use]

/-- The definitions directly in an occupant are those that its instances hold. -/
theorem holds_definition_iff {k : Kind} {d : Placed k} :
    x.Holds (.definition k d) ↔ ∃ u ∈ x.uses, u.held? = some (.definition k d) := by
  have hflags : ∀ p : Part FlagSet, some (definition k d) ∈ p.content?.elim [] FlagSet.held ↔
      ∃ u ∈ p.content?.elim [] FlagSet.uses, u.held? = some (.definition k d) :=
    fun p => mem_elim_iff fun _ => mem_held_flags
  unfold Holds
  cases x with
  | definition kind owner =>
    cases kind with
    | assembly =>
      have hmodel : some (definition k d) ∈
          owner.model.content?.elim [] (Model.held owner.home owner.site) ↔
          ∃ u ∈ owner.model.content?.elim [] Model.uses, u.held? = some (.definition k d) :=
        mem_elim_iff fun _ => mem_held_model_definition
      simp only [flags, children, uses, hflags, hmodel, List.mem_append, or_and_right, exists_or]
    | field => simp only [flags, children, uses, hflags, List.not_mem_nil, or_false]
    | flag => simp [flags, children, uses]
  | choice home site c =>
    have hbody : some (definition k d) ∈ (c.body.map NamedInstance.element).map Element.held? ↔ _ :=
      mem_map_use_iff
    rw [List.map_map, List.map_map] at hbody
    simp only [flags, children, uses, List.not_mem_nil, false_or]
    exact hbody
  | group g =>
    have hcontent : some (definition k d) ∈ g.content.content?.elim []
          (fun as => as.instances.map fun a => a.element.held?) ↔
        ∃ u ∈ g.content.content?.elim [] Alternatives.uses, u.held? = some (.definition k d) := by
      refine mem_elim_iff fun as => ?_
      have h : some (definition k d) ∈
          (as.instances.map Alternative.element).map Element.held? ↔ _ := mem_map_use_iff
      rw [List.map_map, List.map_map] at h
      exact h
    simp only [flags, children, uses, List.not_mem_nil, false_or]
    exact hcontent

end Occupant

/-! ### What stands in a module is written there -/

namespace Module
variable {m : Module} {x : Occupant}

theorem Reached.written_choice {home : Module} {site : Site} {c : Choice}
    (h : m.Reached (.choice home site c)) :
    ∃ children, List.Forall₂ (NamedInstance.WrittenIn m) children c.body := by
  rcases h.cases with ⟨k, d, -, hx⟩ | ⟨y, hy, hx⟩
  · cases hx
  · obtain ⟨d, earlier, child, rfl, -, -, hb⟩ := Occupant.built_of_holds_choice hx
    have hhome : d.home = m := hy.home
    have hw : (ModelInstance.choice c).WrittenIn d.home child := ModelInstance.writtenIn_of_build hb
    rw [hhome] at hw
    cases hw with
    | choice body => exact ⟨_, body⟩

theorem Reached.written_use (h : m.Reached x) {u : Use} (hu : u ∈ x.uses) : u.WrittenIn m := by
  have hhome := h.home
  have hflags : ∀ p : Part FlagSet, u ∈ p.content?.elim [] FlagSet.uses →
      (∀ s, p.build.outcome = .ok s → ∃ children, s.WrittenIn m children) → u.WrittenIn m := by
    intro p hu hw
    obtain ⟨s, hs, hu⟩ := Occupant.mem_elim hu
    obtain ⟨children, hs⟩ := hw s (Part.content?_eq_some_iff.mp hs)
    exact hs.use hu
  cases x with
  | definition k d =>
    have hd : d.home = m := hhome
    cases k with
    | assembly =>
      rcases List.mem_append.mp hu with hu | hu
      · refine hflags _ hu fun s hs => ⟨d.decl.flags, ?_⟩
        rw [← hd]
        exact FlagSet.writtenIn_of_build hs
      · obtain ⟨model, hm, hu⟩ := Occupant.mem_elim hu
        have hw := Placed.writtenIn_of_buildModel (Part.content?_eq_some_iff.mp hm)
        rw [hd] at hw
        exact hw.use hu
    | field =>
      refine hflags _ hu fun s hs => ⟨d.decl.flags, ?_⟩
      rw [← hd]
      exact FlagSet.writtenIn_of_build (Placed.build_of_buildFieldFlags hs)
    | flag => exact absurd hu List.not_mem_nil
  | choice home site c =>
    obtain ⟨i, hi, rfl⟩ := List.mem_map.mp hu
    obtain ⟨children, hc⟩ := h.written_choice
    obtain ⟨child, hchild⟩ := exists_of_forall₂ hc hi
    exact hchild.use
  | group g =>
    have hg : g.owner.home = m := hhome
    obtain ⟨as, has, hu⟩ := Occupant.mem_elim hu
    have hw := ChoiceGroup.writtenIn_of_buildAlternatives (Part.content?_eq_some_iff.mp has)
    rw [hg] at hw
    exact hw.use hu

theorem held?_eq_some_iff {u : Use} {y : Occupant} :
    u.held? = some y ↔ u.2.isInline = true ∧ y = .definition u.1 u.2.definition := by
  unfold Use.held? Instance.held?
  split
  · rename_i hi
    simp [hi, eq_comm]
  · rename_i hi
    simp [hi]

theorem Reached.prepared_of_holds (h : m.Reached x) {k : Kind} {d : Placed k}
    (hd : x.Holds (.definition k d)) :
    d.home = m ∧ ∃ decl, k.prepare m.info.setup.registry m.info.source none decl =
      .ok d.definition := by
  obtain ⟨u, hu, hheld⟩ := Occupant.holds_definition_iff.mp hd
  obtain ⟨hinline, hd⟩ := held?_eq_some_iff.mp hheld
  obtain ⟨k', i⟩ := u
  cases hd
  obtain ⟨origin, hw⟩ := h.written_use hu
  cases hw with
  | reference form _ _ _ _ =>
    have hinlineForm : i.form = .inline := of_decide_eq_true hinline
    have hreference : i.form = .reference := form
    rw [hreference] at hinlineForm
    cases hinlineForm
  | inline _ home prepared _ _ => exact ⟨home, _, prepared⟩

/-- At any depth a definition belongs to the module around it, and only the global ones have a
position. -/
theorem Reached.ownedBy (hm : m.Built) {k : Kind} {d : Placed k}
    (h : m.Reached (.definition k d)) :
    d.OwnedBy m ∧ (d ∈ m.own k ∧ d.head.position.isSome ∨
      d ∉ m.own k ∧ d.head.position = none) := by
  rcases h.cases with ⟨k', d', hd, hx⟩ | ⟨y, hy, hx⟩
  · cases hx
    obtain ⟨-, -, hinline⟩ := hm.of_mem_own hd
    refine ⟨hm.ownedBy_of_mem_own hd, .inl ⟨hd, ?_⟩⟩
    rw [← Option.not_isNone]
    exact congrArg (! ·) hinline
  · obtain ⟨hhome, decl, hp⟩ := hy.prepared_of_holds hx
    refine ⟨Placed.ownedBy_of_prepare hhome hp, .inr ⟨?_, Kind.position_of_prepare hp⟩⟩
    exact fun hd => Reached.site_ne_of_holds hd hy hx rfl

/-! ### Ways from a module -/

/-- A way leads from the module to the occupant: it begins at a definition that the module declares,
exports or sees, and goes into what stands there and to the definitions of instances. -/
inductive LeadsTo (m : Module) : Occupant → Prop where
  | own {k : Kind} {d : Placed k} (h : d ∈ m.own k) : LeadsTo m (.definition k d)
  | exported {k : Kind} {name : QName} {d : Placed k} (h : exported? k name m = some d) :
      LeadsTo m (.definition k d)
  | visible {k : Kind} {name : QName} {d : Placed k} (h : m.visible? k name = some d) :
      LeadsTo m (.definition k d)
  | inside {x y : Occupant} (hx : LeadsTo m x) (h : x.Holds y) : LeadsTo m y
  | used {x : Occupant} {u : Use} (hx : LeadsTo m x) (h : u ∈ x.uses) :
      LeadsTo m (.definition u.1 u.2.definition)

/-- The module is `m` or one below it, and the occupant stands in it. -/
def StandsFor (m : Module) (x : Occupant) : Prop := m.Spans x.home ∧ x.home.Reached x

theorem standsFor_own {b : Module} (hb : m.Spans b) {k : Kind} {d : Placed k} (hd : d ∈ b.own k) :
    m.StandsFor (.definition k d) := by
  have hhome : d.home = b := home_of_mem_own hd
  refine ⟨?_, ?_⟩
  · show m.Spans d.home
    rw [hhome]
    exact hb
  · show d.home.Reached _
    rw [hhome]
    exact .of_own hd

theorem Spans.trans {a b c : Module} (h₁ : a.Spans b) (h₂ : b.Spans c) : a.Spans c :=
  Relation.ReflTransGen.trans h₁ h₂

theorem Built.standsFor_visible (hm : m.Built) {k : Kind} {name : QName} {d : Placed k}
    (h : m.visible? k name = some d) : m.StandsFor (.definition k d) := by
  obtain ⟨-, ⟨hd, -⟩ | ⟨-, hd, hb⟩⟩ := hm.of_visible? h
  · exact standsFor_own (Spans.self m) hd
  · exact standsFor_own hb.to_reflTransGen (mem_shared_iff.mp hd).1

theorem Built.standsFor_exported (hm : m.Built) {k : Kind} {name : QName} {d : Placed k}
    (h : exported? k name m = some d) : m.StandsFor (.definition k d) := by
  obtain ⟨hd, -, hb⟩ := hm.of_exported? h
  have hown := (mem_shared_iff.mp hd).1
  rcases hb with hb | hb
  · exact standsFor_own (hb ▸ Spans.self m) hown
  · exact standsFor_own hb.to_reflTransGen hown

theorem Built.of_spans (hm : m.Built) {b : Module} (h : m.Spans b) : b.Built := by
  rcases Relation.reflTransGen_iff_eq_or_transGen.mp h with rfl | h
  · exact hm
  · exact hm.of_below h

/-- Wherever a way leads, what stands there stands in the module or in one below it. -/
theorem LeadsTo.standsFor (hm : m.Built) (h : m.LeadsTo x) : m.StandsFor x := by
  induction h with
  | own hd => exact standsFor_own (Spans.self m) hd
  | exported hd => exact hm.standsFor_exported hd
  | visible hd => exact hm.standsFor_visible hd
  | @inside x y _ hy ih =>
    obtain ⟨hspans, hx⟩ := ih
    have hreached := hx.step hy
    have hhome : y.home = x.home := hreached.home
    unfold StandsFor
    rw [hhome]
    exact ⟨hspans, hreached⟩
  | @used x u _ hu ih =>
    obtain ⟨hspans, hx⟩ := ih
    obtain ⟨k, i⟩ := u
    obtain ⟨origin, hw⟩ := hx.written_use hu
    cases hw with
    | reference _ _ means _ _ =>
      obtain ⟨hbelow, hd⟩ := (hm.of_spans hspans).standsFor_visible means
      exact ⟨hspans.trans hbelow, hd⟩
    | inline form home _ _ _ =>
      have hinline : i.isInline = true := decide_eq_true form
      have hheld : Use.held? ⟨k, i⟩ = some (.definition k i.definition) :=
        held?_eq_some_iff.mpr ⟨hinline, rfl⟩
      have hreached := hx.step (Occupant.holds_definition_iff.mpr ⟨⟨k, i⟩, hu, hheld⟩)
      have hhome : i.definition.home = x.home := home
      refine ⟨?_, ?_⟩
      · show m.Spans i.definition.home
        rw [hhome]
        exact hspans
      · show i.definition.home.Reached _
        rw [hhome]
        exact hreached

/-- Let a way lead from a module to an occupant: into definitions, choices and groups to any depth,
and along references into other modules. The occupant stands in the module or in one below it, which
is its home. If it is a definition, its names have the namespace of its home, its source and that of
its variables and rules is the home's, and it has a position if it is a global definition there, and
none otherwise. What a choice is between is written in the home. Every part of the occupant stands
for what is written for it, one for one: a reference is read with the bindings of the home and means
what it means there, and fails if it means nothing there; the instance has the home's namespace, or
none if it is a flag. As long as the modules of a graph are held, the part is the same whatever was
asked before, and no other way, from whatever module, leads to another occupant with this place in
this home. -/
theorem owned_lexically (hm : m.Built) (hx : m.LeadsTo x) :
    m.Spans x.home ∧ x.home.Reached x ∧
    (∀ k d, x = .definition k d → d.OwnedBy x.home ∧
      (d ∈ x.home.own k ∧ d.head.position.isSome ∨
        d ∉ x.home.own k ∧ d.head.position = none) ∧
      ∀ c, d.constraints.build.outcome = .ok c → c.From x.home.info.source) ∧
    (∀ home site c, x = .choice home site c →
      ∃ children, List.Forall₂ (NamedInstance.WrittenIn x.home) children c.body) ∧
    (∀ r a, x.aggregate? r = some a → a.home = x.home ∧
      (∀ c, a.part.build.outcome = .ok c → a.Written c) ∧
      ∀ k reference definition owner,
        a.part.build.outcome = .error (.unresolvedReference k reference definition owner) →
        owner = x.home.shortName ∧ ∃ name, x.home.info.source.readName reference = .ok name ∧
          x.home.visible? k name = none) ∧
    ∀ s G, Store.Run .empty s → s.Hosts G → G m →
      (∀ r a, x.aggregate? r = some a → ∀ earlier : List Query,
        (a.part.get (s.after earlier)).1 = a.part.build.outcome) ∧
      ∀ n y, G n → n.LeadsTo y → y.home.id = x.home.id → y.site = x.site → y = x := by
  obtain ⟨hspans, hreached⟩ := hx.standsFor hm
  have hhome := hm.of_spans hspans
  refine ⟨hspans, hreached, ?_, ?_, ?_, ?_⟩
  · rintro k d rfl
    obtain ⟨howned, hposition⟩ := hreached.ownedBy hhome
    refine ⟨howned, hposition, fun c hc => ?_⟩
    rw [← howned.source]
    exact Placed.from_of_buildConstraints hc
  · rintro home site c rfl
    exact hreached.written_choice
  · intro r a ha
    have hhomes := Occupant.home_of_aggregate? ha
    refine ⟨hhomes, fun c hc => Aggregate.written_of_build hc, ?_⟩
    intro k reference definition owner he
    rw [← hhomes]
    exact Aggregate.unresolved_of_build he
  · intro s G hs hg hgm
    have hin : ∀ {n b : Module}, G n → n.Spans b → G b := by
      intro n b hn hb
      rcases Relation.reflTransGen_iff_eq_or_transGen.mp hb with rfl | hb
      · exact hn
      · exact hg.of_below hn hb
    refine ⟨?_, ?_⟩
    · intro r a ha earlier
      have hclear := Store.clear_after (hg.clear hs) earlier x.home (hin hgm hspans)
      refine Store.fst_demand ?_
      rw [Occupant.slot_of_aggregate? ha]
      exact hclear
    · intro n y hn hy hid hsite
      obtain ⟨hspans', hreached'⟩ := hy.standsFor (hg.known n hn).built
      have hsame : y.home = x.home := hg.distinct _ _ (hin hn hspans') (hin hgm hspans) hid
      rw [hsame] at hreached'
      exact hreached'.eq_of_site hhome hreached hsite

end Module

namespace Sample

def shelvesDecl : ModuleDecl :=
  ⟨"shelves", none, none, some "urn:shelves", none, none, ["boxes.json"], [⟨"p", "urn:parts"⟩],
    [⟨.assembly, (⟨headed "shelf", none, none, none, [],
      [.named (.assembly ⟨none, none, none⟩
        (.reference ⟨"p:box", none, none, ⟨none, none, [], none⟩⟩))], none⟩ : AssemblyDecl)⟩]⟩

def shelves : Module := moduleOf 1 shelvesDecl [boxes]

theorem built_shelves : shelves.Built := by
  have h : Module.assemble setup 1 shelvesDecl none [boxes] = .ok shelves := rfl
  refine .intro h ?_ ?_
  · intro i hi
    rw [List.mem_singleton.mp hi]
    exact knows_boxes.built
  · intro i hi
    rw [List.mem_singleton.mp hi]
    exact Nat.zero_lt_one

end Sample

namespace Module

theorem owned_lexically_shelves :
    Sample.shelves.Built ∧ ∃ part : Placed .assembly,
      Sample.shelves.LeadsTo (.definition .assembly part) ∧
        part.OwnedBy Sample.boxes ∧ part.head.position = none := by
  have hbox : ∃ box : Placed .assembly,
      Sample.shelves.visible? .assembly ⟨some "urn:parts", "box"⟩ = some box := ⟨_, rfl⟩
  obtain ⟨box, hvisible⟩ := hbox
  have hpart : ∃ part : Placed .assembly, Occupant.Holds (.definition .assembly box)
      (.definition .assembly part) ∧ part.home = Sample.boxes ∧ part.head.position = none := by
    cases hvisible
    exact ⟨_, .inr List.mem_cons_self, rfl, rfl⟩
  obtain ⟨part, hholds, hhome, hposition⟩ := hpart
  have hleads := (LeadsTo.visible hvisible).inside hholds
  obtain ⟨-, -, howned, -⟩ := owned_lexically Sample.built_shelves hleads
  obtain ⟨hpart, -, -⟩ := howned .assembly part rfl
  refine ⟨Sample.built_shelves, part, hleads, ?_, hposition⟩
  rw [← hhome]
  exact hpart

end Module

end InfoModel

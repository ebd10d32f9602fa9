import InfoModel.Proofs.Building.Refusal
import InfoModel.Proofs.Collection.View

/-!
# Models

A model is built unless one of its children cannot be, and then it has an instance for each child,
in order. Instances are counted by shape: assemblies and fields by their form, choices, and groups.
What a choice is between is counted and named in the model of the choice, and not in the model
around it.
Main statement: `Placed.buildModel_complete`.
-/

namespace InfoModel

/-! ### Shapes -/

inductive Shape where
  | element (kind : Kind) (form : Form)
  | choice
  | group
deriving DecidableEq

def Element.shape (e : Element) : Shape := .element e.kind e.form

def Element.position : Element → Nat
  | .assembly i => i.position
  | .field i => i.position

namespace NamedChildDecl

def kind : NamedChildDecl → Kind
  | .assembly _ _ => .assembly
  | .field _ _ _ => .field

def form : NamedChildDecl → Form
  | .assembly _ origin => origin.form
  | .field _ _ origin => origin.form

def shape (c : NamedChildDecl) : Shape := .element c.kind c.form

end NamedChildDecl

def ModelChildDecl.shape : ModelChildDecl → Shape
  | .named child => child.shape
  | .choice _ => .choice
  | .group _ _ => .group

namespace ModelInstance

def shape : ModelInstance → Shape
  | .named i => i.element.shape
  | .choice _ => .choice
  | .group _ => .group

def position : ModelInstance → Nat
  | .named i => i.element.position
  | .choice c => c.position
  | .group g => g.position

end ModelInstance

theorem count_map_eq_length_filterMap {α β γ : Type} [DecidableEq γ] {f : α → γ} {s : γ}
    {g : α → Option β} (h : ∀ a, (g a).isSome ↔ f a = s) (as : List α) :
    (as.map f).count s = (as.filterMap g).length := by
  rw [List.length_filterMap_eq_countP, List.count_eq_countP, List.countP_map]
  refine List.countP_congr fun a _ => ?_
  rw [h a]
  exact beq_iff_eq

theorem countElements_eq_count (k : Kind) (f : Form) (es : List Element) :
    countElements k f es = (es.map Element.shape).count (.element k f) := by
  unfold countElements
  rw [← List.countP_eq_length_filter, List.count_eq_countP, List.countP_map]
  refine List.countP_congr fun e _ => ?_
  simp [Element.shape]

namespace ModelInstance

theorem count_shape_element (k : Kind) (f : Form) (is : List ModelInstance) :
    (((is.filterMap named?).map NamedInstance.element).map Element.shape).count (.element k f) =
      (is.map shape).count (.element k f) := by
  rw [List.map_map, List.map_filterMap, List.count_eq_countP,
    List.count_eq_countP, List.countP_map, List.countP_filterMap]
  refine List.countP_congr fun i _ => ?_
  cases i <;> simp [shape, named?]

theorem count_shape_choice (is : List ModelInstance) :
    (is.map shape).count .choice = (is.filterMap choice?).length := by
  refine count_map_eq_length_filterMap (fun i => ?_) is
  cases i <;> simp [shape, choice?, Element.shape]

theorem count_shape_group (is : List ModelInstance) :
    (is.map shape).count .group = (is.filterMap group?).length := by
  refine count_map_eq_length_filterMap (fun i => ?_) is
  cases i <;> simp [shape, group?, Element.shape]

end ModelInstance

/-! ### Names -/

def NamedChildDecl.name? (m : Module) : NamedChildDecl → Option QName
  | .assembly _ origin => origin.name? m .assembly
  | .field _ _ origin => origin.name? m .field

namespace ModelChildDecl

def name? (m : Module) : ModelChildDecl → Option QName
  | .named child => child.name? m
  | .choice _ => none
  | .group _ _ => none

def nameOf? (m : Module) (k : Kind) : ModelChildDecl → Option QName
  | .named child => if child.kind = k then child.name? m else none
  | .choice _ => none
  | .group _ _ => none

def groupName? : ModelChildDecl → Option String
  | .named _ => none
  | .choice _ => none
  | .group head _ => some head.groupAs.name

def choice? : ModelChildDecl → Option (List NamedChildDecl)
  | .named _ => none
  | .choice children => some children
  | .group _ _ => none

end ModelChildDecl

def NamedInstance.assembly? : NamedInstance → Option AssemblyInstance
  | .assembly i => some i
  | .field _ => none

def NamedInstance.field? : NamedInstance → Option FieldInstance
  | .field i => some i
  | .assembly _ => none

namespace ModelInstance

def name? (i : ModelInstance) : Option QName := i.named?.map NamedInstance.name

def assemblyName? (i : ModelInstance) : Option QName :=
  (i.named?.bind NamedInstance.assembly?).map fun a => a.base.name

def fieldName? (i : ModelInstance) : Option QName :=
  (i.named?.bind NamedInstance.field?).map fun f => f.base.name

def groupName? (i : ModelInstance) : Option String := i.group?.map ChoiceGroup.name

end ModelInstance

/-! ### What models stand for -/

structure ModelInstance.Renders (m : Module) (earlier : List ModelChildDecl) (c : ModelChildDecl)
    (i : ModelInstance) : Prop where
  written : i.WrittenIn m c
  shape : i.shape = c.shape
  position : i.position = (earlier.map ModelChildDecl.shape).count c.shape
  name : i.name? = c.name? m

/-- The model stands for the children one for one, and its views show by name those children that
are assemblies, fields or groups themselves. -/
structure Model.Renders (m : Module) (children : List ModelChildDecl) (model : Model) : Prop where
  instances : InTurn (ModelInstance.Renders m) children model.instances
  named : model.named.Views NamedInstance.name model.elements
  names : model.elements.map NamedInstance.name = children.filterMap (ModelChildDecl.name? m)
  assemblies : model.assemblies.Views (fun i => i.base.name)
    (model.elements.filterMap NamedInstance.assembly?)
  assemblyNames : (model.elements.filterMap NamedInstance.assembly?).map (fun i => i.base.name) =
    children.filterMap (ModelChildDecl.nameOf? m .assembly)
  fields : model.fields.Views (fun i => i.base.name)
    (model.elements.filterMap NamedInstance.field?)
  fieldNames : (model.elements.filterMap NamedInstance.field?).map (fun i => i.base.name) =
    children.filterMap (ModelChildDecl.nameOf? m .field)
  groups : model.groups.Views ChoiceGroup.name (model.instances.filterMap ModelInstance.group?)
  groupNames : (model.instances.filterMap ModelInstance.group?).map ChoiceGroup.name =
    children.filterMap ModelChildDecl.groupName?

namespace ModelInstance.Renders
variable {m : Module} {earlier : List ModelChildDecl} {c : ModelChildDecl} {i : ModelInstance}

theorem nameOf (h : i.Renders m earlier c) :
    i.assemblyName? = c.nameOf? m .assembly ∧ i.fieldName? = c.nameOf? m .field := by
  obtain ⟨written, -, -, name⟩ := h
  cases written with
  | named hj =>
    cases hj with
    | assembly base => exact ⟨name, rfl⟩
    | field base => exact ⟨rfl, name⟩
  | choice body => exact ⟨rfl, rfl⟩
  | group home kept => exact ⟨rfl, rfl⟩

theorem groupName (h : i.Renders m earlier c) : i.groupName? = c.groupName? := by
  obtain ⟨written, -, -, -⟩ := h
  cases written with
  | named hj => rfl
  | choice body => rfl
  | @group g head alternatives home kept =>
    show some g.head.groupAs.name = some head.groupAs.name
    rw [kept.1]

end ModelInstance.Renders

theorem Model.renders_of_inTurn {m : Module} {children : List ModelChildDecl} {model : Model}
    (h : InTurn (ModelInstance.Renders m) children model.instances) : model.Renders m children where
  instances := h
  named := NamedMap.views_byKey _ _
  names := by
    rw [← h.filterMap_eq fun _ _ _ hi => hi.name]
    exact List.map_filterMap
  assemblies := NamedMap.views_byKey _ _
  assemblyNames := by
    rw [← h.filterMap_eq fun _ _ _ hi => hi.nameOf.1]
    unfold elements
    rw [List.filterMap_filterMap, List.map_filterMap]
    rfl
  fields := NamedMap.views_byKey _ _
  fieldNames := by
    rw [← h.filterMap_eq fun _ _ _ hi => hi.nameOf.2]
    unfold elements
    rw [List.filterMap_filterMap, List.map_filterMap]
    rfl
  groups := NamedMap.views_byKey _ _
  groupNames := by
    rw [← h.filterMap_eq fun _ _ _ hi => hi.groupName]
    exact List.map_filterMap

/-! ### Building models -/

theorem NamedInstance.element_of_build {owner : Owner} (hm : owner.home.Built) {site : Site}
    {made : List NamedInstance} {c : NamedChildDecl} {i : NamedInstance}
    (h : (NamedInstance.build owner site made c).outcome = .ok i) :
    i.element.shape = c.shape ∧ c.name? owner.home = some i.name ∧
      i.element.position = ((made.map element).map Element.shape).count c.shape := by
  obtain ⟨j, hj, h⟩ := Traced.outcome_bind_eq_ok_iff.mp h
  obtain ⟨-, -, h⟩ := Traced.outcome_bind_eq_ok_iff.mp h
  cases h
  cases c with
  | assembly use origin =>
    obtain ⟨base, hb, hj⟩ := Traced.outcome_bind_eq_ok_iff.mp hj
    obtain ⟨occurrence, -, hj⟩ := Traced.outcome_bind_eq_ok_iff.mp hj
    cases hj
    obtain ⟨hposition, hform⟩ := Instance.place_of_build hb
    exact ⟨congrArg (Shape.element .assembly) hform,
      Instance.name?_of_writtenIn hm (Instance.writtenIn_of_build hb),
      hposition.trans (countElements_eq_count _ _ _)⟩
  | field use inXml origin =>
    obtain ⟨base, hb, hj⟩ := Traced.outcome_bind_eq_ok_iff.mp hj
    obtain ⟨ownDefault, -, hj⟩ := Traced.outcome_bind_eq_ok_iff.mp hj
    obtain ⟨occurrence, -, hj⟩ := Traced.outcome_bind_eq_ok_iff.mp hj
    cases hj
    obtain ⟨hposition, hform⟩ := Instance.place_of_build hb
    exact ⟨congrArg (Shape.element .field) hform,
      Instance.name?_of_writtenIn hm (Instance.writtenIn_of_build hb),
      hposition.trans (countElements_eq_count _ _ _)⟩

namespace ModelInstance
variable {owner : Owner} {earlier : List ModelChildDecl}

theorem renders_of_buildNamed (hm : owner.home.Built) {site : Site} {made : List NamedInstance}
    (hmade : ∀ c : NamedChildDecl,
      ((made.map NamedInstance.element).map Element.shape).count c.shape =
        (earlier.map ModelChildDecl.shape).count c.shape)
    {c : NamedChildDecl} {i : NamedInstance}
    (h : (NamedInstance.build owner site made c).outcome = .ok i) :
    (ModelInstance.named i).Renders owner.home earlier (.named c) := by
  obtain ⟨hshape, hname, hposition⟩ := NamedInstance.element_of_build hm h
  exact ⟨.named (NamedInstance.writtenIn_of_build h), hshape, hposition.trans (hmade c), hname.symm⟩

theorem count_shape_of_inTurn {m : Module} {made : List ModelInstance}
    (h : InTurn (Renders m) earlier made) (s : Shape) :
    (made.map shape).count s = (earlier.map ModelChildDecl.shape).count s := by
  rw [h.map_eq fun _ _ _ hi => hi.shape]

theorem renders_of_buildChoice (hm : owner.home.Built) {site : Site}
    {children : List NamedChildDecl} {body : List NamedInstance}
    (h : (Traced.collect (fun made child => NamedInstance.build owner (.child site made.length) made
      child) [] children).outcome = .ok body) (position : Nat) :
    (Model.ofChoice ⟨position, body⟩).Renders owner.home (children.map ModelChildDecl.named) := by
  -- what the choice is between counts among itself, as the elements of a model do
  have hbody : InTurn (fun earlier c i => (ModelInstance.named i).Renders owner.home
      (earlier.map ModelChildDecl.named) (.named c)) children body := by
    refine Traced.inTurn_of_collect ?_ h
    intro earlier made c i hmade hi
    refine renders_of_buildNamed hm (fun c' => ?_) hi
    have hshapes := hmade.map_eq fun _ _ _ hj => hj.shape
    rw [List.map_map, List.map_map]
    exact congrArg (List.count c'.shape) hshapes
  exact Model.renders_of_inTurn (hbody.map fun _ _ _ hi => hi)

/-- A child is built behind others as its declaration says, and with a choice its model. -/
theorem renders_of_build (hm : owner.home.Built) {made : List ModelInstance}
    (hmade : InTurn (Renders owner.home) earlier made) {c : ModelChildDecl} {i : ModelInstance}
    (h : (ModelInstance.build owner made c).outcome = .ok i) :
    i.Renders owner.home earlier c ∧
      Option.Rel (fun children k =>
        (Model.ofChoice k).Renders owner.home (children.map ModelChildDecl.named))
        c.choice? i.choice? := by
  have hwritten := writtenIn_of_build h
  have hcount := count_shape_of_inTurn hmade
  cases c with
  | named child =>
    obtain ⟨j, hj, h⟩ := Traced.outcome_bind_eq_ok_iff.mp h
    cases h
    -- it is counted among the elements only, but nothing else has the shape of an element
    refine ⟨renders_of_buildNamed hm (fun c => ?_) hj, .none⟩
    rw [← hcount]
    exact count_shape_element c.kind c.form made
  | choice children =>
    obtain ⟨body, hb, h⟩ := Traced.outcome_bind_eq_ok_iff.mp h
    cases h
    refine ⟨⟨hwritten, rfl, ?_, rfl⟩, .some (renders_of_buildChoice hm hb _)⟩
    exact (count_shape_choice made).symm.trans (hcount .choice)
  | group head alternatives =>
    obtain ⟨g, hg, h⟩ := Traced.outcome_bind_eq_ok_iff.mp h
    cases h
    obtain ⟨occurrence, -, hg⟩ := Traced.outcome_bind_eq_ok_iff.mp hg
    obtain ⟨-, -, hg⟩ := Traced.outcome_bind_eq_ok_iff.mp hg
    cases hg
    refine ⟨⟨hwritten, rfl, ?_, rfl⟩, .none⟩
    exact (count_shape_group made).symm.trans (hcount .group)

end ModelInstance

namespace Placed
variable {d : Placed .assembly} {model : Model}

theorem fault?_buildModel (hm : d.home.Built) :
    d.buildModel.fault? = d.decl.model.findSome? (ModelChildDecl.fault? d.home d.name) := by
  have howner : d.owner.home.Built := hm
  have hall := Traced.fault?_collect (ModelInstance.fault?_build howner) [] d.decl.model
  have hbuild : d.buildModel.fault? =
      (Traced.collect (ModelInstance.build d.owner) [] d.decl.model).fault? :=
    Traced.fault?_bind_none fun _ => rfl
  rw [hbuild, hall]
  rfl

/-- A model of a built module can be built if each of its children can be, those of its choices
included, and otherwise the first that cannot, in order, decides the fault. What is built stands for
the children, and so does the model of each choice for what the choice is between. -/
theorem buildModel_complete (hm : d.home.Built) :
    ((∃ model, d.buildModel.outcome = .ok model) ↔
      ∀ c ∈ d.decl.model, c.fault? d.home d.name = none) ∧
    (∀ e, d.buildModel.outcome = .error e ↔
      d.decl.model.findSome? (ModelChildDecl.fault? d.home d.name) = some e) ∧
    ∀ model, d.buildModel.outcome = .ok model →
      model.Renders d.home d.decl.model ∧
      List.Forall₂ (fun children choice =>
        (Model.ofChoice choice).Renders d.home (children.map ModelChildDecl.named))
        (d.decl.model.filterMap ModelChildDecl.choice?) model.choices := by
  have hfault := fault?_buildModel hm
  refine ⟨?_, ?_, ?_⟩
  · rw [← List.findSome?_eq_none_iff, ← hfault]
    exact faultOf?_eq_none_iff.symm
  · intro e
    rw [← hfault]
    exact faultOf?_eq_some_iff.symm
  · intro model h
    obtain ⟨instances, hc, h⟩ := Traced.outcome_bind_eq_ok_iff.mp h
    obtain ⟨-, -, h⟩ := Traced.outcome_bind_eq_ok_iff.mp h
    cases h
    have howner : d.owner.home.Built := hm
    have hall := Traced.inTurn_of_collect (R := fun earlier c i =>
      i.Renders d.home earlier c ∧ Option.Rel (fun children k =>
        (Model.ofChoice k).Renders d.home (children.map ModelChildDecl.named)) c.choice? i.choice?)
      (fun earlier made c i hmade hi =>
        ModelInstance.renders_of_build howner (hmade.imp fun _ _ _ h => h.1) hi) hc
    exact ⟨Model.renders_of_inTurn (hall.imp fun _ _ _ h => h.1),
      hall.forall₂_filterMap fun _ _ _ h => h.2⟩

end Placed

namespace Sample

def partHead : DefinitionHeadDecl :=
  ⟨"part", none, none, some "piece", none, ⟨none, none, [], none⟩⟩

def textField (name : String) : FieldDecl := ⟨headed name, ⟨none, none⟩, none, none, none, [], none⟩

def once : UseDecl := ⟨none, none, none⟩

def rackTools : List AlternativeDecl :=
  [.assembly none (.reference (referTo "part" none)),
    .field (some "text") (.inline (textField "piece")),
    .assembly (some "piece") (.reference (referTo "part" (some "spare")))]

/-- A rack has a part, a choice between a part and a note, a field that takes the part's name, a
spare part, and a group. -/
def rackChildren : List ModelChildDecl :=
  [.named (.assembly once (.reference (referTo "part" none))),
    .choice [.assembly once (.reference (referTo "part" none)),
      .field once none (.inline (textField "note"))],
    .named (.field once none (.inline (textField "piece"))),
    .named (.assembly once (.reference (referTo "part" (some "spare")))),
    .group ⟨none, none, ⟨"tools", none, none⟩, none, some "id", none⟩ rackTools]

def crateChildren : List ModelChildDecl :=
  [.choice [.assembly once (.reference (referTo "part" none)),
      .field once none (.reference (referTo "label" none))],
    .named (.assembly once (.reference (referTo "part" (some "1"))))]

def racksDecl : ModuleDecl :=
  ⟨"racks", none, none, some "urn:parts", none, none, [], [],
    [⟨.assembly, (⟨partHead, none, none, none, [], [], none⟩ : AssemblyDecl)⟩,
      ⟨.assembly, (⟨headed "rack", none, none, none, [], rackChildren, none⟩ : AssemblyDecl)⟩,
      ⟨.assembly, (⟨headed "crate", none, none, none, [], crateChildren, none⟩ : AssemblyDecl)⟩]⟩

def racks : Module := textModule racksDecl

theorem built_racks : racks.Built := built_textModule rfl

end Sample

namespace Placed

theorem buildModel_complete_racks :
    Sample.racks.Built ∧
      (∃ rack model, Sample.racks.own? .assembly ⟨some "urn:parts", "rack"⟩ = some rack ∧
        rack.buildModel.outcome = .ok model ∧ model.Renders Sample.racks Sample.rackChildren ∧
        model.elements.map NamedInstance.name = [⟨some "urn:parts", "piece"⟩,
          ⟨some "urn:parts", "piece"⟩, ⟨some "urn:parts", "spare"⟩]) ∧
      ∃ crate, Sample.racks.own? .assembly ⟨some "urn:parts", "crate"⟩ = some crate ∧
        crate.buildModel.outcome =
          .error (.unresolvedReference .field "label" "Q\x7burn:parts\x7dcrate" "racks") := by
  have hrack : ∃ rack, Sample.racks.own? .assembly ⟨some "urn:parts", "rack"⟩ = some rack ∧
      rack.home = Sample.racks ∧ rack.decl.model = Sample.rackChildren ∧
      rack.name = ⟨some "urn:parts", "rack"⟩ := ⟨_, rfl, rfl, rfl, rfl⟩
  have hcrate : ∃ crate, Sample.racks.own? .assembly ⟨some "urn:parts", "crate"⟩ = some crate ∧
      crate.home = Sample.racks ∧ crate.decl.model = Sample.crateChildren ∧
      crate.name = ⟨some "urn:parts", "crate"⟩ := ⟨_, rfl, rfl, rfl, rfl⟩
  refine ⟨Sample.built_racks, ?_, ?_⟩
  · obtain ⟨rack, hown, hhome, hmodel, hname⟩ := hrack
    have hbuilt : rack.home.Built := hhome ▸ Sample.built_racks
    obtain ⟨hok, -, hrenders⟩ := buildModel_complete hbuilt
    rw [hhome, hmodel, hname] at hok
    rw [hhome, hmodel] at hrenders
    obtain ⟨model, hbuild⟩ := hok.mpr (List.findSome?_eq_none_iff.mp rfl)
    obtain ⟨hr, -⟩ := hrenders model hbuild
    exact ⟨rack, model, hown, hbuild, hr, hr.names.trans rfl⟩
  · obtain ⟨crate, hown, hhome, hmodel, hname⟩ := hcrate
    have hbuilt : crate.home.Built := hhome ▸ Sample.built_racks
    obtain ⟨-, herror, -⟩ := buildModel_complete hbuilt
    rw [hhome, hmodel, hname] at herror
    exact ⟨crate, hown, (herror _).mpr rfl⟩

end Placed

end InfoModel

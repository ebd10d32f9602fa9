import InfoModel.Proofs.Building.Children

/-!
# Alternatives and their discriminators

The alternatives of a group are built up to the first that cannot be, and counted and named as the
elements of a model are. A value of the discriminator tells an alternative only if that is the last
with its name, and of several such it tells the one whose name comes first. Main statement:
`ChoiceGroup.alternatives_told`.
-/

namespace InfoModel

namespace AlternativeDecl

def kind : AlternativeDecl → Kind
  | .assembly _ _ => .assembly
  | .field _ _ => .field

def form : AlternativeDecl → Form
  | .assembly _ origin => origin.form
  | .field _ origin => origin.form

def shape (c : AlternativeDecl) : Shape := .element c.kind c.form

def name? (m : Module) : AlternativeDecl → Option QName
  | .assembly _ origin => origin.name? m .assembly
  | .field _ origin => origin.name? m .field

def ownDiscriminator : AlternativeDecl → Option String
  | .assembly discriminator _ => discriminator
  | .field discriminator _ => discriminator

end AlternativeDecl

structure Alternative.Renders (m : Module) (jsonKey : Option String)
    (earlier : List AlternativeDecl) (c : AlternativeDecl) (a : Alternative) : Prop where
  written : a.WrittenIn m c
  shape : a.element.shape = c.shape
  position : a.element.position = (earlier.map AlternativeDecl.shape).count c.shape
  name : c.name? m = some a.name
  jsonKey : a.jsonKey = jsonKey
  discriminator : a.discriminator = c.ownDiscriminator.getD a.name.localName

/-- The alternatives stand for the declarations one for one, and the views show them by name. -/
structure Alternatives.Renders (m : Module) (jsonKey : Option String)
    (children : List AlternativeDecl) (as : Alternatives) : Prop where
  instances : InTurn (Alternative.Renders m jsonKey) children as.instances
  named : as.named.Views Alternative.name as.instances
  assemblies : as.assemblies.Views Alternative.name
    (as.instances.filter fun a => a.element.kind = .assembly)
  fields : as.fields.Views Alternative.name
    (as.instances.filter fun a => a.element.kind = .field)
  size : as.size = (as.instances.map Alternative.name).eraseDups.length

theorem Alternative.renders_of_build {owner : Owner} (hm : owner.home.Built)
    {jsonKey : Option String} {earlier : List AlternativeDecl} {made : List Alternative}
    (hmade : InTurn (Renders owner.home jsonKey) earlier made) {c : AlternativeDecl}
    {a : Alternative} (h : (Alternative.build owner jsonKey made c).outcome = .ok a) :
    a.Renders owner.home jsonKey earlier c := by
  have hwritten := Alternative.writtenIn_of_build h
  have hcount : ∀ k f, countElements k f (made.map element) =
      (earlier.map AlternativeDecl.shape).count (.element k f) := by
    intro k f
    have hshapes : made.map (Element.shape ∘ element) = earlier.map AlternativeDecl.shape :=
      hmade.map_eq fun _ _ _ hb => hb.shape
    rw [countElements_eq_count, List.map_map, hshapes]
  obtain ⟨b, hb, h⟩ := Traced.outcome_bind_eq_ok_iff.mp h
  obtain ⟨-, -, h⟩ := Traced.outcome_bind_eq_ok_iff.mp h
  cases h
  cases c with
  | assembly discriminator origin =>
    obtain ⟨base, hbase, hb⟩ := Traced.outcome_bind_eq_ok_iff.mp hb
    cases hb
    obtain ⟨hposition, hform⟩ := Instance.place_of_build hbase
    exact ⟨hwritten, congrArg (Shape.element .assembly) hform, hposition.trans (hcount _ _),
      Instance.name?_of_writtenIn hm (Instance.writtenIn_of_build hbase), rfl, rfl⟩
  | field discriminator origin =>
    obtain ⟨base, hbase, hb⟩ := Traced.outcome_bind_eq_ok_iff.mp hb
    cases hb
    obtain ⟨hposition, hform⟩ := Instance.place_of_build hbase
    exact ⟨hwritten, congrArg (Shape.element .field) hform, hposition.trans (hcount _ _),
      Instance.name?_of_writtenIn hm (Instance.writtenIn_of_build hbase), rfl, rfl⟩

theorem ChoiceGroup.renders_of_buildAlternatives {g : ChoiceGroup} (hm : g.owner.home.Built)
    {as : Alternatives} (h : g.buildAlternatives.outcome = .ok as) :
    as.Renders g.owner.home g.head.jsonKey g.alternatives := by
  obtain ⟨instances, hc, h⟩ := Traced.outcome_bind_eq_ok_iff.mp h
  obtain ⟨-, -, h⟩ := Traced.outcome_bind_eq_ok_iff.mp h
  cases h
  have hall := Traced.inTurn_of_collect
    (fun _ _ _ _ hmade ha => Alternative.renders_of_build hm hmade ha) hc
  exact ⟨hall, NamedMap.views_byKey _ _, NamedMap.views_byKey _ _, NamedMap.views_byKey _ _,
    NamedMap.size_byKey _ _⟩

/-- What is wrong with an alternative is what is wrong with the instance as such. -/
def AlternativeDecl.fault? (m : Module) (containing : QName) : AlternativeDecl → Option ModelFault
  | .assembly _ origin => origin.fault? m .assembly containing
  | .field _ origin => origin.fault? m .field containing

theorem Alternative.fault?_build {owner : Owner} (hm : owner.home.Built) (jsonKey : Option String)
    (earlier : List Alternative) (c : AlternativeDecl) :
    (Alternative.build owner jsonKey earlier c).fault? =
      c.fault? owner.home owner.definition := by
  have hbuild : (Alternative.build owner jsonKey earlier c).fault? =
      (Alternative.ofDecl owner jsonKey earlier c).fault? := Traced.fault?_bind_none fun _ => rfl
  rw [hbuild]
  cases c with
  | assembly discriminator origin =>
    show _ = OriginDecl.fault? owner.home .assembly owner.definition origin
    rw [← Instance.fault?_build hm (.child owner.site earlier.length)
      (countElements .assembly origin.form (earlier.map element))]
    exact Traced.fault?_bind_none fun _ => rfl
  | field discriminator origin =>
    show _ = OriginDecl.fault? owner.home .field owner.definition origin
    rw [← Instance.fault?_build hm (.child owner.site earlier.length)
      (countElements .field origin.form (earlier.map element))]
    exact Traced.fault?_bind_none fun _ => rfl

theorem ChoiceGroup.fault?_buildAlternatives {g : ChoiceGroup} (hm : g.owner.home.Built) :
    g.buildAlternatives.fault? =
      g.alternatives.findSome? (AlternativeDecl.fault? g.owner.home g.owner.definition) := by
  rw [← Traced.fault?_collect (Alternative.fault?_build hm g.head.jsonKey) [] g.alternatives]
  exact Traced.fault?_bind_none fun _ => rfl

namespace Alternatives
variable {as : Alternatives} {a : Alternative} {value : String}

/-- The alternative is the last with its name, and the value of the discriminator is its own. -/
structure Answers (as : Alternatives) (value : String) (a : Alternative) : Prop where
  last : IsLast Alternative.name as.instances a
  value : a.discriminator = value

theorem byDiscriminator?_eq_some_iff :
    as.byDiscriminator? value = some a ↔ as.Answers value a ∧ ∀ b, as.Answers value b →
      (as.instances.map Alternative.name).idxOf a.name ≤
        (as.instances.map Alternative.name).idxOf b.name := by
  have hviews : as.named.Views Alternative.name as.instances := NamedMap.views_byKey _ _
  unfold byDiscriminator?
  rw [hviews.find?_values_eq_some_iff]
  constructor
  · rintro ⟨hlast, hvalue, hfirst⟩
    exact ⟨⟨hlast, of_decide_eq_true hvalue⟩,
      fun b hb => hfirst b hb.last (decide_eq_true hb.value)⟩
  · rintro ⟨⟨hlast, hvalue⟩, hfirst⟩
    exact ⟨hlast, decide_eq_true hvalue,
      fun b hb hv => hfirst b ⟨hb, of_decide_eq_true hv⟩⟩

theorem isSome_byDiscriminator?_iff :
    (as.byDiscriminator? value).isSome ↔ ∃ a, as.Answers value a := by
  have hviews : as.named.Views Alternative.name as.instances := NamedMap.views_byKey _ _
  unfold byDiscriminator?
  rw [List.find?_isSome]
  refine exists_congr fun a => ?_
  rw [hviews.mem_values_iff, decide_eq_true_iff]
  exact ⟨fun h => ⟨h.1, h.2⟩, fun h => ⟨h.last, h.value⟩⟩

theorem byDiscriminator?_of_nodup (hnames : (as.instances.map Alternative.name).Nodup)
    (hvalues : (as.instances.map Alternative.discriminator).Nodup) (ha : a ∈ as.instances) :
    as.byDiscriminator? a.discriminator = some a := by
  refine byDiscriminator?_eq_some_iff.mpr ⟨⟨isLast_of_nodup hnames ha, rfl⟩, ?_⟩
  intro b hb
  have hsame : b = a := List.inj_on_of_nodup_map hvalues hb.last.mem ha hb.value
  subst hsame
  exact Nat.le_refl _

end Alternatives

/-- The alternatives of a group in a built module that are built stand for what is declared, each
with the key of the group. A value tells an alternative if it is the discriminator of one that is
the last with its name, and then it tells the one of them whose name comes first. If no name and no
discriminator is repeated, each alternative is told by its discriminator. -/
theorem ChoiceGroup.alternatives_told {g : ChoiceGroup} (hm : g.owner.home.Built)
    {as : Alternatives} (h : g.buildAlternatives.outcome = .ok as) :
    as.Renders g.owner.home g.head.jsonKey g.alternatives ∧
    (∀ value, (as.byDiscriminator? value).isSome ↔ ∃ a, as.Answers value a) ∧
    (∀ value a, as.byDiscriminator? value = some a ↔ as.Answers value a ∧
      ∀ b, as.Answers value b → (as.instances.map Alternative.name).idxOf a.name ≤
        (as.instances.map Alternative.name).idxOf b.name) ∧
    ((as.instances.map Alternative.name).Nodup →
      (as.instances.map Alternative.discriminator).Nodup →
      ∀ a ∈ as.instances, as.byDiscriminator? a.discriminator = some a) :=
  ⟨renders_of_buildAlternatives hm h, fun _ => Alternatives.isSome_byDiscriminator?_iff,
    fun _ _ => Alternatives.byDiscriminator?_eq_some_iff,
    fun hnames hvalues _ ha => Alternatives.byDiscriminator?_of_nodup hnames hvalues ha⟩

theorem ChoiceGroup.alternatives_told_racks :
    ∃ (rack : Placed .assembly) (model : Model) (tools : ChoiceGroup) (as : Alternatives),
      Sample.racks.own? .assembly ⟨some "urn:parts", "rack"⟩ = some rack ∧
      rack.buildModel.outcome = .ok model ∧ model.groups.get? "tools" = some tools ∧
      tools.owner.home.Built ∧ tools.buildAlternatives.outcome = .ok as ∧
      as.Renders Sample.racks (some "id") Sample.rackTools ∧
      ∃ spare, as.byDiscriminator? "piece" = some spare ∧ as.Answers "piece" spare ∧
        spare.name = ⟨some "urn:parts", "spare"⟩ := by
  have htools : ∃ (rack : Placed .assembly) (model : Model) (tools : ChoiceGroup)
      (as : Alternatives) (spare : Alternative),
      Sample.racks.own? .assembly ⟨some "urn:parts", "rack"⟩ = some rack ∧
      rack.buildModel.outcome = .ok model ∧ model.groups.get? "tools" = some tools ∧
      tools.owner.home = Sample.racks ∧ tools.head.jsonKey = some "id" ∧
      tools.alternatives = Sample.rackTools ∧ tools.buildAlternatives.outcome = .ok as ∧
      as.byDiscriminator? "piece" = some spare ∧ spare.name = ⟨some "urn:parts", "spare"⟩ :=
    ⟨_, _, _, _, _, rfl, rfl, rfl, rfl, rfl, rfl, rfl, rfl, rfl⟩
  obtain ⟨rack, model, tools, as, spare, hown, hmodel, htools, hhome, hkey, hdecl, has, hspare,
    hname⟩ := htools
  have hbuilt : tools.owner.home.Built := hhome ▸ Sample.built_racks
  obtain ⟨hrenders, -, htold, -⟩ := alternatives_told hbuilt has
  rw [hhome, hkey, hdecl] at hrenders
  exact ⟨rack, model, tools, as, hown, hmodel, htools, hbuilt, has, hrenders, spare, hspare,
    ((htold _ _).mp hspare).1, hname⟩

end InfoModel

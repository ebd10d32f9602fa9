import InfoModel.Proofs.Building.Alternatives
import InfoModel.Proofs.Building.Flags
import InfoModel.Proofs.Module.Declarations

/-!
# Defaults

A default is declared as a text and kept as the value that a datatype makes of it: that of the
definition, or for a reference with a text of its own that of the definition it means. A text that
the datatype refuses is never passed over: what declares it is not built, for that reason or for one
that is met before. Main statement: `Module.defaults_read`.
-/

namespace InfoModel

/-! ### Values of definitions -/

def Kind.valueType? : (k : Kind) → k.Definition → Option ValueType
  | .assembly, _ => none
  | .field, d => some d.value
  | .flag, d => some d.value

/-- The datatype is registered under the declared name, and the default is what it makes of the
declared text. -/
structure ValueType.ReadFrom (r : Registry) (d : ValueDecl) (t : ValueType) : Prop where
  datatype : r.lookup d.typeName = some t.datatype
  default : Option.Rel (fun text v => t.datatype.parse text = .ok v) d.default t.default

/-- The value of the definition, if it has one, is read as it is declared, in its own module. -/
def Placed.ValueRead {k : Kind} (d : Placed k) : Prop :=
  Option.Rel (ValueType.ReadFrom d.home.info.setup.registry) (k.valueDecl? d.decl)
    (k.valueType? d.definition)

theorem Registry.lookup_of_resolveOrDefault {r : Registry} {d : ValueDecl} {datatype : Datatype}
    (h : r.resolveOrDefault d.datatype = .ok datatype) : r.lookup d.typeName = some datatype := by
  unfold resolveOrDefault resolve at h
  unfold ValueDecl.typeName
  split at h
  · next hlookup =>
    cases h
    exact hlookup
  · cases h

theorem ValueType.readFrom_of_prepare {r : Registry} {d : ValueDecl} {t : ValueType}
    (h : prepare r d = .ok t) : t.ReadFrom r d := by
  obtain ⟨datatype, hdatatype, h⟩ := Except.bind_eq_ok_iff.mp h
  obtain ⟨default, hdefault, h⟩ := Except.bind_eq_ok_iff.mp h
  cases h
  exact ⟨Registry.lookup_of_resolveOrDefault hdatatype, Except.optionMapM_eq_ok_iff.mp hdefault⟩

theorem Kind.readFrom_of_prepare {r : Registry} {source : Source} {position : Option Nat} {k : Kind}
    {d : k.Decl} {definition : k.Definition} (h : k.prepare r source position d = .ok definition) :
    Option.Rel (ValueType.ReadFrom r) (k.valueDecl? d) (k.valueType? definition) := by
  cases k with
  | assembly => exact .none
  | field =>
    obtain ⟨head, -, h⟩ := Except.bind_eq_ok_iff.mp h
    obtain ⟨value, hvalue, h⟩ := Except.bind_eq_ok_iff.mp h
    cases h
    exact .some (ValueType.readFrom_of_prepare hvalue)
  | flag =>
    obtain ⟨head, -, h⟩ := Except.bind_eq_ok_iff.mp h
    obtain ⟨value, hvalue, h⟩ := Except.bind_eq_ok_iff.mp h
    cases h
    exact .some (ValueType.readFrom_of_prepare hvalue)

theorem Placed.valueRead_of_prepare {m : Module} {k : Kind} {d : Placed k} (hd : d.home = m)
    {position : Option Nat} {decl : k.Decl}
    (h : k.prepare m.info.setup.registry m.info.source position decl = .ok d.definition) :
    d.ValueRead := by
  have hdecl : d.decl = decl := Kind.decl_of_prepare h
  unfold ValueRead
  rw [hd, hdecl]
  exact Kind.readFrom_of_prepare h

namespace Module
variable {m : Module} {k : Kind} {d : Placed k}

theorem Built.valueRead_of_mem_own (hm : m.Built) (hd : d ∈ m.own k) : d.ValueRead := by
  cases hm with
  | intro h below older =>
    obtain ⟨earlier, decl, hp⟩ := (inTurn_own h k).exists_of_mem hd
    exact Placed.valueRead_of_prepare (home_of_mem_own hd) hp.prepared

theorem Reached.valueRead (hm : m.Built) (h : m.Reached (.definition k d)) : d.ValueRead := by
  rcases h.cases with ⟨k', d', hd, hx⟩ | ⟨y, hy, hx⟩
  · cases hx
    exact hm.valueRead_of_mem_own hd
  · obtain ⟨hhome, decl, hp⟩ := hy.prepared_of_holds hx
    exact Placed.valueRead_of_prepare hhome hp

theorem LeadsTo.valueRead (hm : m.Built) (h : m.LeadsTo (.definition k d)) : d.ValueRead := by
  obtain ⟨hspans, hreached⟩ := h.standsFor hm
  exact hreached.valueRead (hm.of_spans hspans)

end Module

/-! ### Defaults of instances -/

def OriginDecl.defaultText? : OriginDecl δ → Option String
  | .reference r => r.default
  | .inline _ => none

/-- The value that stands for a missing instance: what the datatype of the definition makes of the
instance's own text, and if there is no such text the default of the definition. -/
inductive ValueType.Supplies (t : ValueType) : Option String → Option Value → Prop
  | own {text : String} {v : Value} (read : t.datatype.parse text = .ok v) :
      Supplies t (some text) (some v)
  | inherited : Supplies t none t.default

theorem ValueType.supplies_of_readDefault {origin : OriginDecl δ} {t : ValueType}
    {ownDefault : Option Value}
    (h : (origin.readDefault t.datatype).outcome = .ok ownDefault) :
    t.Supplies origin.defaultText? (ownDefault.or t.default) := by
  cases origin with
  | reference r =>
    have hread := Except.optionMapM_eq_ok_iff.mp (Build.eq_ok_of_basic h)
    show t.Supplies r.default _
    generalize r.default = declared at hread ⊢
    cases hread with
    | none => exact .inherited
    | some hv => exact .own hv
  | inline definition =>
    cases h
    exact .inherited

theorem Instance.valueRead_of_writtenIn {m : Module} (hm : m.Built) {k : Kind}
    {origin : OriginDecl k.Decl} {i : Instance k} (h : i.WrittenIn m k origin) :
    i.definition.ValueRead := by
  cases h with
  | reference form read means space localName =>
    obtain ⟨hspans, hreached⟩ := hm.standsFor_visible means
    exact hreached.valueRead (hm.of_spans hspans)
  | inline form home prepared space localName => exact Placed.valueRead_of_prepare home prepared

/-- The flag stands for what is written, its definition has its value as declared, and the flag has
the default that this gives it. -/
structure FlagInstance.Defaulted (m : Module) (c : FlagChildDecl) (i : FlagInstance) : Prop where
  written : i.base.WrittenIn m .flag c.origin
  definition : i.base.definition.ValueRead
  value : i.base.definition.definition.value.Supplies c.origin.defaultText? i.default

theorem FlagInstance.defaulted_of_build {owner : Owner} (hm : owner.home.Built)
    {earlier : List FlagInstance} {c : FlagChildDecl} {i : FlagInstance}
    (h : (FlagInstance.build owner earlier c).outcome = .ok i) : i.Defaulted owner.home c := by
  obtain ⟨base, hb, h⟩ := Traced.outcome_bind_eq_ok_iff.mp h
  obtain ⟨ownDefault, hd, h⟩ := Traced.outcome_bind_eq_ok_iff.mp h
  obtain ⟨-, -, h⟩ := Traced.outcome_bind_eq_ok_iff.mp h
  cases h
  have hwritten := Instance.writtenIn_of_build hb
  exact ⟨hwritten, Instance.valueRead_of_writtenIn hm hwritten,
    ValueType.supplies_of_readDefault hd⟩

theorem FlagSet.defaulted_of_build {owner : Owner} (hm : owner.home.Built)
    {jsonKey : Option String} {children : List FlagChildDecl} {s : FlagSet}
    (h : (FlagSet.build owner jsonKey children).outcome = .ok s) :
    List.Forall₂ (FlagInstance.Defaulted owner.home) children s.instances := by
  refine Traced.forall₂_of_collect ?_ (FlagSet.instances_of_build h)
  exact fun earlier c i hi => FlagInstance.defaulted_of_build hm hi

/-! ### Models with their choices opened -/

def ModelChildDecl.opened : ModelChildDecl → List ModelChildDecl
  | .choice children => children.map .named
  | c => [c]

def ModelInstance.opened : ModelInstance → List ModelInstance
  | .choice c => c.body.map .named
  | i => [i]

def Model.opened (model : Model) : List ModelInstance :=
  model.instances.flatMap ModelInstance.opened

/-- The child stands for what is written; the definition of a field has its value as declared, and
the field has the default that this gives it. -/
inductive ModelInstance.Defaulted (m : Module) : ModelChildDecl → ModelInstance → Prop
  | assembly {use : UseDecl} {origin : OriginDecl AssemblyDecl} {i : AssemblyInstance}
      (written : i.base.WrittenIn m .assembly origin) :
      Defaulted m (.named (.assembly use origin)) (.named (.assembly i))
  | field {use : UseDecl} {inXml : Option XmlWrapping} {origin : OriginDecl FieldDecl}
      {i : FieldInstance} (written : i.base.WrittenIn m .field origin)
      (definition : i.base.definition.ValueRead)
      (value : i.base.definition.definition.value.Supplies origin.defaultText? i.default) :
      Defaulted m (.named (.field use inXml origin)) (.named (.field i))
  | group {head : GroupHeadDecl} {alternatives : List AlternativeDecl} {g : ChoiceGroup} :
      Defaulted m (.group head alternatives) (.group g)

namespace ModelInstance
variable {owner : Owner} (hm : owner.home.Built)
include hm

theorem defaulted_of_buildNamed {site : Site} {earlier : List NamedInstance} {c : NamedChildDecl}
    {i : NamedInstance} (h : (NamedInstance.build owner site earlier c).outcome = .ok i) :
    (ModelInstance.named i).Defaulted owner.home (.named c) := by
  obtain ⟨j, hj, h⟩ := Traced.outcome_bind_eq_ok_iff.mp h
  obtain ⟨-, -, h⟩ := Traced.outcome_bind_eq_ok_iff.mp h
  cases h
  cases c with
  | assembly use origin =>
    obtain ⟨base, hb, hj⟩ := Traced.outcome_bind_eq_ok_iff.mp hj
    obtain ⟨occurrence, -, hj⟩ := Traced.outcome_bind_eq_ok_iff.mp hj
    cases hj
    exact .assembly (Instance.writtenIn_of_build hb)
  | field use inXml origin =>
    obtain ⟨base, hb, hj⟩ := Traced.outcome_bind_eq_ok_iff.mp hj
    obtain ⟨ownDefault, hd, hj⟩ := Traced.outcome_bind_eq_ok_iff.mp hj
    obtain ⟨occurrence, -, hj⟩ := Traced.outcome_bind_eq_ok_iff.mp hj
    cases hj
    have hwritten := Instance.writtenIn_of_build hb
    exact .field hwritten (Instance.valueRead_of_writtenIn hm hwritten)
      (ValueType.supplies_of_readDefault hd)

theorem defaulted_of_build {earlier : List ModelInstance} {c : ModelChildDecl} {i : ModelInstance}
    (h : (ModelInstance.build owner earlier c).outcome = .ok i) :
    List.Forall₂ (Defaulted owner.home) c.opened i.opened := by
  cases c with
  | named child =>
    obtain ⟨j, hj, h⟩ := Traced.outcome_bind_eq_ok_iff.mp h
    cases h
    exact .cons (defaulted_of_buildNamed hm hj) .nil
  | choice children =>
    obtain ⟨body, hb, h⟩ := Traced.outcome_bind_eq_ok_iff.mp h
    cases h
    refine List.forall₂_map_left_iff.mpr (List.forall₂_map_right_iff.mpr ?_)
    refine Traced.forall₂_of_collect ?_ hb
    exact fun made child i hi => defaulted_of_buildNamed hm hi
  | group head alternatives =>
    obtain ⟨g, hg, h⟩ := Traced.outcome_bind_eq_ok_iff.mp h
    cases h
    exact .cons .group .nil

end ModelInstance

theorem Placed.defaulted_of_buildModel {d : Placed .assembly} (hm : d.home.Built) {model : Model}
    (h : d.buildModel.outcome = .ok model) :
    List.Forall₂ (ModelInstance.Defaulted d.home) (d.decl.model.flatMap ModelChildDecl.opened)
      model.opened := by
  obtain ⟨instances, hc, h⟩ := Traced.outcome_bind_eq_ok_iff.mp h
  obtain ⟨-, -, h⟩ := Traced.outcome_bind_eq_ok_iff.mp h
  cases h
  have hall : List.Forall₂ (fun c i =>
      List.Forall₂ (ModelInstance.Defaulted d.home) c.opened i.opened) d.decl.model instances := by
    have howner : d.owner.home.Built := hm
    refine Traced.forall₂_of_collect ?_ hc
    exact fun made c i hi => ModelInstance.defaulted_of_build howner hi
  exact List.rel_flatMap hall fun _ _ hi => hi

/-! ### Refused defaults -/

/-- The text that is declared for the default is refused by the datatype, which is registered. -/
def ValueDecl.RefusesDefault (r : Registry) (d : ValueDecl) (e : Fault) : Prop :=
  ∃ datatype text, r.lookup d.typeName = some datatype ∧ d.default = some text ∧
    datatype.parse text = .error e

def Kind.RefusesDefault (r : Registry) (k : Kind) (d : k.Decl) (e : Fault) : Prop :=
  ∃ v, k.valueDecl? d = some v ∧ v.RefusesDefault r e

/-- The text that an instance declares for its default is refused: a reference's by the datatype of
the definition that it means, and that of a definition in place by its own. -/
inductive OriginDecl.RefusesDefault (m : Module) (k : Kind) (e : Fault) : OriginDecl k.Decl → Prop
  | reference {r : ReferenceDecl} {name : QName} {d : Placed k} {t : ValueType} {text : String}
      (read : m.info.source.readName r.reference = .ok name)
      (means : m.visible? k name = some d) (value : k.valueType? d.definition = some t)
      (declared : r.default = some text) (refused : t.datatype.parse text = .error e) :
      RefusesDefault m k e (.reference r)
  | inline {decl : k.Decl} (refused : k.RefusesDefault m.info.setup.registry decl e) :
      RefusesDefault m k e (.inline decl)

/-- What is wrong with the names that an instance declares; they are looked at before its default.
-/
def OriginDecl.nameFault? (k : Kind) : OriginDecl k.Decl → Option Fault
  | .reference r => r.useName.bind ncNameFault?
  | .inline decl => (k.declaredNames decl).findSome? ncNameFault?

theorem Kind.fault?_of_refusesDefault {r : Registry} {k : Kind} {d : k.Decl} {e : Fault}
    (h : k.RefusesDefault r d e) :
    k.fault? r d = some (((k.declaredNames d).findSome? ncNameFault?).getD e) := by
  obtain ⟨v, hv, datatype, text, hlookup, htext, hrefused⟩ := h
  have hvalue : v.fault? r = some e := by
    unfold ValueDecl.fault?
    rw [hlookup, htext]
    exact faultOf?_eq_some_iff.mpr hrefused
  unfold fault?
  rw [hv, Option.bind_some, hvalue]
  cases (k.declaredNames d).findSome? ncNameFault? <;> rfl

namespace OriginDecl
variable {m : Module} {k : Kind} {origin : OriginDecl k.Decl} {e : Fault}

theorem fault?_of_refusesDefault (h : origin.RefusesDefault m k e)
    (datatype : k.Definition → Datatype)
    (hdatatype : ∀ d t, k.valueType? d = some t → t.datatype = datatype d) (containing : QName) :
    (origin.fault? m k containing).or (origin.defaultFault? m k datatype) =
      some (.basic ((origin.nameFault? k).getD e)) := by
  cases h with
  | @reference r name d t text read means value declared refused =>
    have hmeaning := Module.meaning?_eq_some_iff.mpr ⟨name, read, means⟩
    have hreference : m.referenceFault? k r.reference containing = none := by
      unfold Module.referenceFault?
      rw [read]
      dsimp only
      rw [means]
      rfl
    have hdefault : OriginDecl.defaultFault? m k datatype (.reference r) = some (.basic e) := by
      unfold defaultFault?
      dsimp only
      rw [hmeaning, Option.bind_some, declared, Option.bind_some, ← hdatatype _ _ value,
        faultOf?_eq_some_iff.mpr refused]
      rfl
    rw [hdefault]
    unfold fault? nameFault?
    dsimp only
    rw [hreference]
    cases r.useName.bind ncNameFault? <;> rfl
  | @inline decl refused =>
    unfold fault?
    dsimp only
    rw [Kind.fault?_of_refusesDefault refused]
    rfl

end OriginDecl

/-! ### Where defaults are refused -/

/-- The fault where a default is refused: one that is met earlier, or else that of the names beside
the default, which are looked at before it, or else the refusal. -/
def refusedBehind (earlier : Option ModelFault) (names : Option Fault) (e : Fault) : ModelFault :=
  earlier.getD (.basic (names.getD e))

theorem FlagChildDecl.fault?_of_refusesDefault {m : Module} {c : FlagChildDecl} {e : Fault}
    (h : c.origin.RefusesDefault m .flag e) (containing : QName) :
    c.fault? m containing = some (.basic ((c.origin.nameFault? .flag).getD e)) := by
  refine OriginDecl.fault?_of_refusesDefault h (fun d => d.value.datatype) ?_ containing
  rintro d t ⟨⟩
  rfl

theorem FlagSet.fault?_of_refusesDefault {owner : Owner} (hm : owner.home.Built)
    (jsonKey : Option String) {children before after : List FlagChildDecl} {c : FlagChildDecl}
    {e : Fault} (hchildren : children = before ++ c :: after)
    (h : c.origin.RefusesDefault owner.home .flag e) :
    (build owner jsonKey children).fault? =
      some (refusedBehind (before.findSome? (FlagChildDecl.fault? owner.home owner.definition))
        (c.origin.nameFault? .flag) e) := by
  rw [fault?_build hm, hchildren,
    findSome?_append_cons (FlagChildDecl.fault?_of_refusesDefault h _)]
  rfl

theorem ModelChildDecl.findSome?_opened (m : Module) (containing : QName)
    (children : List ModelChildDecl) :
    (children.flatMap opened).findSome? (fault? m containing) =
      children.findSome? (fault? m containing) := by
  induction children with
  | nil => rfl
  | cons c children ih =>
    have hopened : c.opened.findSome? (fault? m containing) = c.fault? m containing := by
      cases c with
      | named child => cases h : fault? m containing (.named child) <;> simp [opened, h]
      | choice children =>
        unfold opened
        dsimp only
        rw [List.findSome?_map]
        rfl
      | group head alternatives =>
        cases h : fault? m containing (.group head alternatives) <;> simp [opened, h]
    rw [List.flatMap_cons, List.findSome?_append, hopened, ih, List.findSome?_cons]
    cases c.fault? m containing <;> rfl

theorem NamedChildDecl.fault?_of_refusesDefault {m : Module} {origin : OriginDecl FieldDecl}
    {e : Fault} (h : OriginDecl.RefusesDefault m .field e origin) (containing : QName)
    (use : UseDecl) (inXml : Option XmlWrapping) :
    (NamedChildDecl.field use inXml origin).fault? m containing =
      some (.basic ((OriginDecl.nameFault? .field origin).getD e)) := by
  have hdatatype : ∀ d t, Kind.valueType? .field d = some t → t.datatype = d.value.datatype := by
    rintro d t ⟨⟩
    rfl
  have hdefault := OriginDecl.fault?_of_refusesDefault h _ hdatatype containing
  unfold fault?
  dsimp only
  rw [← Option.or_assoc, hdefault]
  rfl

theorem Placed.buildModel_of_refusesDefault {d : Placed .assembly} (hm : d.home.Built)
    {use : UseDecl} {inXml : Option XmlWrapping} {origin : OriginDecl FieldDecl}
    {before after : List ModelChildDecl} {e : Fault}
    (hmodel : d.decl.model.flatMap ModelChildDecl.opened =
      before ++ .named (.field use inXml origin) :: after)
    (h : OriginDecl.RefusesDefault d.home .field e origin) :
    d.buildModel.outcome =
      .error (refusedBehind (before.findSome? (ModelChildDecl.fault? d.home d.name))
        (OriginDecl.nameFault? .field origin) e) := by
  have hfield : ModelChildDecl.fault? d.home d.name (.named (.field use inXml origin)) =
      some (.basic ((OriginDecl.nameFault? .field origin).getD e)) :=
    NamedChildDecl.fault?_of_refusesDefault h d.name use inXml
  refine faultOf?_eq_some_iff.mp ?_
  show d.buildModel.fault? = _
  rw [d.fault?_buildModel hm, ← ModelChildDecl.findSome?_opened, hmodel,
    findSome?_append_cons hfield]
  rfl

theorem ChoiceGroup.buildAlternatives_of_refusesDefault {g : ChoiceGroup}
    (hm : g.owner.home.Built) {discriminator : Option String} {decl : FieldDecl}
    {before after : List AlternativeDecl} {e : Fault}
    (hgroup : g.alternatives = before ++ .field discriminator (.inline decl) :: after)
    (h : Kind.RefusesDefault g.owner.home.info.setup.registry .field decl e) :
    g.buildAlternatives.outcome = .error (refusedBehind
      (before.findSome? (AlternativeDecl.fault? g.owner.home g.owner.definition))
      ((Kind.declaredNames .field decl).findSome? ncNameFault?) e) := by
  have hfield : AlternativeDecl.fault? g.owner.home g.owner.definition
      (.field discriminator (.inline decl)) =
      some (.basic (((Kind.declaredNames .field decl).findSome? ncNameFault?).getD e)) :=
    congrArg (Option.map ModelFault.basic) (Kind.fault?_of_refusesDefault h)
  refine faultOf?_eq_some_iff.mp ?_
  show g.buildAlternatives.fault? = _
  rw [fault?_buildAlternatives hm, hgroup, findSome?_append_cons hfield]
  rfl

theorem Definitions.foldlM_of_refusesDefault {r : Registry} {source : Source}
    {before after : List DefinitionDecl} {x : DefinitionDecl} {e : Fault}
    (h : x.kind.RefusesDefault r x.definition e) :
    faultOf? ((before ++ x :: after).foldlM (declare r source) .empty) =
      some (refusedBehind (faultOf? (before.foldlM (declare r source) .empty))
        ((x.kind.declaredNames x.definition).findSome? ncNameFault?) e) := by
  rw [List.foldlM_append]
  cases hbefore : before.foldlM (declare r source) .empty with
  | error fault => rfl
  | ok ds =>
    have hx : x.faultBehind? r source before =
        some (.basic (((x.kind.declaredNames x.definition).findSome? ncNameFault?).getD e)) := by
      unfold DefinitionDecl.faultBehind?
      rw [Kind.fault?_of_refusesDefault h]
      rfl
    have hdeclare := (registers_of_foldlM hbefore).faultOf?_declare x
    rw [hx, faultOf?_eq_some_iff] at hdeclare
    show faultOf? ((x :: after).foldlM (declare r source) ds) = _
    rw [List.foldlM_cons, hdeclare]
    rfl

theorem Module.build_of_refusesDefault {setup : Setup} {d : ModuleDecl}
    {before after : List DefinitionDecl} {x : DefinitionDecl} {e : Fault}
    (hdefinitions : d.definitions = before ++ x :: after)
    (h : x.kind.RefusesDefault setup.registry x.definition e) (location : Option Uri)
    (imports : List Module) (s : Store) :
    (Module.build setup d location imports s).1 = .error (refusedBehind
      (faultOf? (assemble setup s.nextId { d with definitions := before } location imports))
      ((x.kind.declaredNames x.definition).findSome? ncNameFault?) e) := by
  have hassemble := faultOf?_assemble setup s.nextId d location imports
  rw [hdefinitions, Definitions.foldlM_of_refusesDefault h] at hassemble
  rw [faultOf?_assemble setup s.nextId { d with definitions := before }]
  -- the source of the declarations is the same with fewer of them
  have hsource : sourceOf { d with definitions := before } location = sourceOf d location := rfl
  rw [hsource]
  cases hbase : faultOf? (readBaseUri d.jsonBaseUri) with
  | none =>
    rw [hbase, Option.none_or, faultOf?_eq_some_iff] at hassemble
    rw [build_of_error hassemble, Option.none_or]
  | some fault =>
    rw [hbase, Option.some_or, faultOf?_eq_some_iff] at hassemble
    rw [build_of_error hassemble, Option.some_or]
    rfl

/-- Wherever a module that is built leads, the value of a definition is read as it is declared: by
the datatype registered in the definition's own module. The flags and fields that are built for its
definitions, those that choices are between included, have the default that the datatype of their
definition makes of their own text, and without such a text the default of the definition, whatever
module it is from.
Where a default is refused, the module, the flags, the model or the alternatives that declare it are
not built, and the fault is the refusal unless another one is met before. -/
theorem Module.defaults_read :
    (∀ m : Module, m.Built → ∀ k (d : Placed k), m.LeadsTo (.definition k d) → d.ValueRead) ∧
    (∀ d : Placed .assembly, d.home.Built →
      (∀ s, d.buildAssemblyFlags.outcome = .ok s →
        List.Forall₂ (FlagInstance.Defaulted d.home) d.decl.flags s.instances) ∧
      (∀ before c after e, d.decl.flags = before ++ c :: after →
        c.origin.RefusesDefault d.home .flag e →
        d.buildAssemblyFlags.outcome = .error (refusedBehind
          (before.findSome? (FlagChildDecl.fault? d.home d.name)) (c.origin.nameFault? .flag) e)) ∧
      (∀ model, d.buildModel.outcome = .ok model →
        List.Forall₂ (ModelInstance.Defaulted d.home)
          (d.decl.model.flatMap ModelChildDecl.opened) model.opened) ∧
      ∀ before use inXml origin after e, d.decl.model.flatMap ModelChildDecl.opened =
          before ++ .named (.field use inXml origin) :: after →
        OriginDecl.RefusesDefault d.home .field e origin →
        d.buildModel.outcome = .error (refusedBehind
          (before.findSome? (ModelChildDecl.fault? d.home d.name))
          (OriginDecl.nameFault? .field origin) e)) ∧
    (∀ d : Placed .field, d.home.Built →
      (∀ s, d.buildFieldFlags.outcome = .ok s →
        List.Forall₂ (FlagInstance.Defaulted d.home) d.decl.flags s.instances) ∧
      ∀ before c after e, d.decl.flags = before ++ c :: after →
        c.origin.RefusesDefault d.home .flag e →
        d.buildFieldFlags.outcome = .error (refusedBehind
          (before.findSome? (FlagChildDecl.fault? d.home d.name)) (c.origin.nameFault? .flag) e)) ∧
    (∀ g : ChoiceGroup, g.owner.home.Built → ∀ before discriminator decl after e,
      g.alternatives = before ++ .field discriminator (.inline decl) :: after →
      Kind.RefusesDefault g.owner.home.info.setup.registry .field decl e →
      g.buildAlternatives.outcome = .error (refusedBehind
        (before.findSome? (AlternativeDecl.fault? g.owner.home g.owner.definition))
        ((Kind.declaredNames .field decl).findSome? ncNameFault?) e)) ∧
    ∀ (setup : Setup) (d : ModuleDecl) location imports s before x after e,
      d.definitions = before ++ x :: after →
      x.kind.RefusesDefault setup.registry x.definition e →
      (Module.build setup d location imports s).1 = .error (refusedBehind
        (faultOf? (assemble setup s.nextId { d with definitions := before } location imports))
        ((x.kind.declaredNames x.definition).findSome? ncNameFault?) e) := by
  refine ⟨fun m hm k d hd => hd.valueRead hm, ?_, ?_, ?_, ?_⟩
  · intro d hm
    have howner : d.owner.home.Built := hm
    refine ⟨fun s hs => FlagSet.defaulted_of_build howner hs, ?_,
      fun model hmodel => Placed.defaulted_of_buildModel hm hmodel, ?_⟩
    · intro before c after e hflags h
      exact faultOf?_eq_some_iff.mp (FlagSet.fault?_of_refusesDefault howner _ hflags h)
    · intro before use inXml origin after e hmodel h
      exact Placed.buildModel_of_refusesDefault hm hmodel h
  · intro d hm
    have howner : d.owner.home.Built := hm
    refine ⟨fun s hs => FlagSet.defaulted_of_build howner (Placed.build_of_buildFieldFlags hs), ?_⟩
    intro before c after e hflags h
    have hflagSet := FlagSet.fault?_of_refusesDefault howner d.decl.jsonKey hflags h
    have hfield := d.fault?_buildFieldFlags hm
    rw [hflagSet, Option.some_or] at hfield
    exact faultOf?_eq_some_iff.mp hfield
  · intro g hm before discriminator decl after e hgroup h
    exact ChoiceGroup.buildAlternatives_of_refusesDefault hm hgroup h
  · intro setup d location imports s before x after e hdefinitions h
    exact build_of_refusesDefault hdefinitions h location imports s

namespace Sample

def countSetup : Setup := ⟨{}, ⟨SortedMap.empty.insert "string" .integer⟩⟩

def unitsDecl : ModuleDecl :=
  ⟨"units", none, none, some "urn:units", none, none, [], [],
    [⟨.flag, (⟨headed "count", ⟨none, some "07"⟩, none⟩ : FlagDecl)⟩]⟩

def assembled (setup : Setup) (id : Nat) (d : ModuleDecl) (imports : List Module) : Module :=
  match Module.assemble setup id d none imports with
  | .ok m => m
  | .error _ => library

def units : Module := assembled countSetup 0 unitsDecl []

def counted (useName default : Option String) : FlagChildDecl :=
  ⟨none, .reference ⟨"u:count", useName, default, ⟨none, none, [], none⟩⟩⟩

def numberField (default : String) : FieldDecl :=
  ⟨headed "number", ⟨some "integer", some default⟩, none, none, none, [], none⟩

def cartonFlags : List FlagChildDecl :=
  [counted none none, counted (some "total") (some " 5 "),
    ⟨none, .inline ⟨headed "note", ⟨none, some " 5 "⟩, none⟩⟩]

def cartonChildren : List ModelChildDecl :=
  [.named (.field once none (.inline (numberField "3"))),
    .group ⟨none, none, ⟨"sizes", none, none⟩, none, none, none⟩
      [.field none (.inline (numberField "few"))]]

def baleFlags : List FlagChildDecl := [counted none none, counted (some "total") (some "many")]

def baleChildren : List ModelChildDecl :=
  [.choice [.field once none (.inline (textField "note")),
    .field once none (.inline (numberField "many"))]]

def depotSetup : Setup :=
  ⟨{}, ⟨(SortedMap.empty.insert "string" .string).insert "integer" .integer⟩⟩

/-- Texts are meant where no datatype is given, except for the counts, which are from elsewhere. -/
def depotDecl : ModuleDecl :=
  ⟨"depot", none, none, some "urn:depot", none, none, ["units.json"], [⟨"u", "urn:units"⟩],
    [⟨.assembly,
        (⟨headed "carton", none, none, none, cartonFlags, cartonChildren, none⟩ : AssemblyDecl)⟩,
      ⟨.assembly,
        (⟨headed "bale", none, none, none, baleFlags, baleChildren, none⟩ : AssemblyDecl)⟩,
      ⟨.field, (⟨headed "tag", ⟨none, none⟩, none, none, none, baleFlags, none⟩ : FieldDecl)⟩]⟩

def depot : Module := assembled depotSetup 1 depotDecl [units]

theorem built_depot : depot.Built := by
  have hunits : Module.assemble countSetup 0 unitsDecl none [] = .ok units := rfl
  have hdepot : Module.assemble depotSetup 1 depotDecl none [units] = .ok depot := rfl
  have hbuilt : units.Built :=
    .intro hunits (fun _ hi => absurd hi List.not_mem_nil) fun _ hi => absurd hi List.not_mem_nil
  refine .intro hdepot ?_ ?_
  · intro i hi
    rw [List.mem_singleton.mp hi]
    exact hbuilt
  · intro i hi
    rw [List.mem_singleton.mp hi]
    exact Nat.zero_lt_one

def notInteger (text : String) : Fault := .invalidValue "integer" text .notInteger

theorem refuses_numberField {text : String}
    (h : Datatype.integer.parse text = .error (notInteger text)) :
    Kind.RefusesDefault depotSetup.registry .field (numberField text) (notInteger text) := by
  have hlookup : depotSetup.registry.lookup "integer" = some .integer := rfl
  exact ⟨_, rfl, .integer, text, hlookup, rfl, h⟩

theorem refuses_counted {useName : Option String} {text : String}
    (h : Datatype.integer.parse text = .error (notInteger text)) :
    OriginDecl.RefusesDefault depot .flag (notInteger text)
      (counted useName (some text)).origin := by
  have hcount : ∃ d : Placed .flag, depot.visible? .flag ⟨some "urn:units", "count"⟩ = some d ∧
      d.definition.value.datatype = .integer := ⟨_, rfl, rfl⟩
  have hread : depot.info.source.readName "u:count" = .ok ⟨some "urn:units", "count"⟩ := by rfl
  obtain ⟨d, hvisible, hinteger⟩ := hcount
  refine .reference hread hvisible rfl rfl ?_
  rw [hinteger]
  exact h

end Sample

theorem Module.defaults_read_depot :
    Sample.depot.Built ∧
    (∃ count : Placed .flag, Sample.depot.LeadsTo (.definition .flag count) ∧ count.ValueRead ∧
      count.definition.value.default = some (.integer 7)) ∧
    (∃ carton s model sizes,
      Sample.depot.own? .assembly ⟨some "urn:depot", "carton"⟩ = some carton ∧
      carton.buildAssemblyFlags.outcome = .ok s ∧ s.instances.map FlagInstance.default =
        [some (.integer 7), some (.integer 5), some (.text " 5 ")] ∧
      List.Forall₂ (FlagInstance.Defaulted Sample.depot) Sample.cartonFlags s.instances ∧
      carton.buildModel.outcome = .ok model ∧
      List.Forall₂ (ModelInstance.Defaulted Sample.depot) Sample.cartonChildren model.opened ∧
      model.groups.get? "sizes" = some sizes ∧
      sizes.buildAlternatives.outcome = .error (.basic (Sample.notInteger "few"))) ∧
    (∃ bale, Sample.depot.own? .assembly ⟨some "urn:depot", "bale"⟩ = some bale ∧
      bale.buildAssemblyFlags.outcome = .error (.basic (Sample.notInteger "many")) ∧
      bale.buildModel.outcome = .error (.basic (Sample.notInteger "many"))) ∧
    (∃ tag, Sample.depot.own? .field ⟨some "urn:depot", "tag"⟩ = some tag ∧
      tag.buildFieldFlags.outcome = .error (.basic (Sample.notInteger "many"))) ∧
    (Module.build Sample.depotSetup
        (Sample.stockDecl [Sample.tray, ⟨.field, Sample.numberField "many"⟩]) none [] .empty).1 =
      .error (.basic (Sample.notInteger "many")) := by
  obtain ⟨hvalues, hassembly, hfield, hgroup, hmodule⟩ := defaults_read
  have hmany : Datatype.integer.parse "many" = .error (Sample.notInteger "many") := rfl
  have hfew : Datatype.integer.parse "few" = .error (Sample.notInteger "few") := rfl
  refine ⟨Sample.built_depot, ?_, ?_, ?_, ?_, ?_⟩
  · have hcount : ∃ count : Placed .flag,
        Sample.depot.visible? .flag ⟨some "urn:units", "count"⟩ = some count ∧
        count.definition.value.default = some (.integer 7) := ⟨_, rfl, rfl⟩
    obtain ⟨count, hvisible, hdefault⟩ := hcount
    have hleads : Sample.depot.LeadsTo (.definition .flag count) := .visible hvisible
    exact ⟨count, hleads, hvalues _ Sample.built_depot _ _ hleads, hdefault⟩
  · have hcarton : ∃ carton s model sizes,
        Sample.depot.own? .assembly ⟨some "urn:depot", "carton"⟩ = some carton ∧
        carton.home = Sample.depot ∧ carton.decl.flags = Sample.cartonFlags ∧
        carton.decl.model.flatMap ModelChildDecl.opened = Sample.cartonChildren ∧
        carton.buildAssemblyFlags.outcome = .ok s ∧ s.instances.map FlagInstance.default =
          [some (.integer 7), some (.integer 5), some (.text " 5 ")] ∧
        carton.buildModel.outcome = .ok model ∧ model.groups.get? "sizes" = some sizes ∧
        sizes.owner.home = Sample.depot ∧
        sizes.alternatives = [.field none (.inline (Sample.numberField "few"))] :=
      ⟨_, _, _, _, rfl, rfl, rfl, rfl, rfl, rfl, rfl, rfl, rfl, rfl⟩
    obtain ⟨carton, s, model, sizes, hown, hhome, hflags, hchildren, hs, hdefaults, hmodel, hsizes,
      hsizesHome, halternatives⟩ := hcarton
    obtain ⟨hsFlags, -, hmodelFields, -⟩ := hassembly carton (hhome ▸ Sample.built_depot)
    have hall := hsFlags s hs
    have hfields := hmodelFields model hmodel
    rw [hhome, hflags] at hall
    rw [hhome, hchildren] at hfields
    have hrefused : Kind.RefusesDefault sizes.owner.home.info.setup.registry .field
        (Sample.numberField "few") (Sample.notInteger "few") := by
      rw [hsizesHome]
      exact Sample.refuses_numberField hfew
    have herror := hgroup sizes (hsizesHome ▸ Sample.built_depot) [] none _ [] _ halternatives
      hrefused
    exact ⟨carton, s, model, sizes, hown, hs, hdefaults, hall, hmodel, hfields, hsizes, herror⟩
  · have hbale : ∃ bale, Sample.depot.own? .assembly ⟨some "urn:depot", "bale"⟩ = some bale ∧
        bale.home = Sample.depot ∧ bale.name = ⟨some "urn:depot", "bale"⟩ ∧
        bale.decl.flags = Sample.baleFlags ∧ bale.decl.model.flatMap ModelChildDecl.opened =
          [.named (.field Sample.once none (.inline (Sample.textField "note"))),
            .named (.field Sample.once none (.inline (Sample.numberField "many")))] :=
      ⟨_, rfl, rfl, rfl, rfl, rfl⟩
    obtain ⟨bale, hown, hhome, hname, hflags, hchildren⟩ := hbale
    obtain ⟨-, hbaleFlags, -, hbaleModel⟩ := hassembly bale (hhome ▸ Sample.built_depot)
    rw [hhome, hname] at hbaleFlags hbaleModel
    refine ⟨bale, hown, ?_, ?_⟩
    · exact hbaleFlags [_] _ [] _ hflags (Sample.refuses_counted hmany)
    · exact hbaleModel [_] _ _ _ [] _ hchildren (.inline (Sample.refuses_numberField hmany))
  · have htag : ∃ tag, Sample.depot.own? .field ⟨some "urn:depot", "tag"⟩ = some tag ∧
        tag.home = Sample.depot ∧ tag.name = ⟨some "urn:depot", "tag"⟩ ∧
        tag.decl.flags = Sample.baleFlags := ⟨_, rfl, rfl, rfl, rfl⟩
    obtain ⟨tag, hown, hhome, hname, hflags⟩ := htag
    obtain ⟨-, htagFlags⟩ := hfield tag (hhome ▸ Sample.built_depot)
    rw [hhome, hname] at htagFlags
    exact ⟨tag, hown, htagFlags [_] _ [] _ hflags (Sample.refuses_counted hmany)⟩
  · exact hmodule _ _ none [] .empty [Sample.tray] ⟨.field, Sample.numberField "many"⟩ [] _ rfl
      (Sample.refuses_numberField hmany)

end InfoModel

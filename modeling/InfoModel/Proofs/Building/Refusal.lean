import InfoModel.Proofs.Building.Siblings
import InfoModel.Proofs.Building.Written
import InfoModel.Proofs.Module.Validity
import InfoModel.Proofs.Resolution.Lexical

/-!
# What keeps a child from being built

Whether a flag, a field, an assembly or a child of a model can be built depends on its declaration
and on what its module means by references, and so does its name; the place and the siblings do not
matter. A reference must mean a definition, a definition in place must be valid on its own, and the
names in use, the defaults and the bounds on occurrences must be well formed, in this order. Main
statements: `Instance.fault?_build`, `Instance.name_of_writtenIn`, `ModelInstance.fault?_build`.
-/

namespace InfoModel

theorem DefinitionHead.nameInUse_of_prepare {source : Source} {position : Option Nat}
    {d : DefinitionHeadDecl} {head : DefinitionHead} (h : prepare source position d = .ok head) :
    head.effectiveName.localName = d.nameInUse ∧
      isNcName head.effectiveName.localName.toList = true := by
  obtain ⟨-, heffective, -⟩ := DefinitionHead.of_prepare h
  exact ⟨(QName.of_make heffective).2, QName.isNcName_of_make heffective⟩

/-- The definition is used under the name that it declares for that. -/
structure Placed.UsedAsDeclared {k : Kind} (d : Placed k) : Prop where
  declared : d.head.effectiveName.localName = (k.headDecl d.decl).nameInUse
  ncName : isNcName d.head.effectiveName.localName.toList = true

theorem Placed.usedAsDeclared_of_prepare {r : Registry} {source : Source} {position : Option Nat}
    {k : Kind} {d : Placed k} {decl : k.Decl}
    (h : k.prepare r source position decl = .ok d.definition) :
    d.UsedAsDeclared ∧ d.decl = decl := by
  have hdecl : d.decl = decl := Kind.decl_of_prepare h
  obtain ⟨hname, hnc⟩ := DefinitionHead.nameInUse_of_prepare (Kind.headDecl_of_prepare h)
  exact ⟨⟨by rw [hdecl]; exact hname, hnc⟩, hdecl⟩

namespace Module
variable {m : Module} {k : Kind} {d : Placed k}

theorem Built.usedAsDeclared_of_mem_own (hm : m.Built) (hd : d ∈ m.own k) : d.UsedAsDeclared := by
  obtain ⟨e, he, rfl⟩ := mem_own_iff.mp hd
  obtain ⟨r, position, decl, hp⟩ := hm.preparedFor k e he
  exact (Placed.usedAsDeclared_of_prepare (d := m.place k e.2) hp).1

theorem Built.usedAsDeclared_of_visible? (hm : m.Built) {name : QName}
    (h : m.visible? k name = some d) : d.UsedAsDeclared := by
  obtain ⟨-, ⟨hd, -⟩ | ⟨-, hd, hb⟩⟩ := hm.of_visible? h
  · exact hm.usedAsDeclared_of_mem_own hd
  · exact (hm.of_below hb).usedAsDeclared_of_mem_own (mem_shared_iff.mp hd).1

def meaning? (m : Module) (k : Kind) (reference : String) : Option (Placed k) :=
  match m.info.source.readName reference with
  | .ok name => m.visible? k name
  | .error _ => none

/-- What is wrong with a reference in the definition `containing`: it is no name, or the name means
nothing. -/
def referenceFault? (m : Module) (k : Kind) (reference : String) (containing : QName) :
    Option ModelFault :=
  match m.info.source.readName reference with
  | .ok name =>
    if (m.visible? k name).isSome then none
    else some (.unresolvedReference k reference containing.text m.shortName)
  | .error fault => some (.basic fault)

theorem fault?_resolve (m : Module) (k : Kind) (reference : String) (containing : QName) :
    (m.resolve k reference containing).fault? = m.referenceFault? k reference containing := by
  unfold Traced.fault? referenceFault?
  cases hr : m.info.source.readName reference with
  | error fault =>
    rw [outcome_resolve_of_error hr]
    rfl
  | ok name =>
    rw [outcome_resolve_of_ok hr]
    cases hv : m.visible? k name with
    | none => simp [faultOf?, hv]
    | some d => simp [faultOf?, hv]

theorem meaning?_eq_some_iff {reference : String} :
    m.meaning? k reference = some d ↔
      ∃ name, m.info.source.readName reference = .ok name ∧ m.visible? k name = some d := by
  unfold meaning?
  cases m.info.source.readName reference with
  | error fault => simp
  | ok name => simp

end Module

namespace OriginDecl
variable {k : Kind}

def nameInUse? (m : Module) (k : Kind) : OriginDecl k.Decl → Option String
  | .reference r =>
    (m.meaning? k r.reference).map fun d => r.useName.getD (k.headDecl d.decl).nameInUse
  | .inline decl => some (k.headDecl decl).nameInUse

def name? (m : Module) (k : Kind) (origin : OriginDecl k.Decl) : Option QName :=
  (origin.nameInUse? m k).map (QName.mk (k.qualifier m))

/-- What is wrong with an instance as such: its reference or its name in use, or its definition. -/
def fault? (m : Module) (k : Kind) (containing : QName) : OriginDecl k.Decl → Option ModelFault
  | .reference r =>
    (m.referenceFault? k r.reference containing).or
      ((r.useName.bind ncNameFault?).map ModelFault.basic)
  | .inline decl => (k.fault? m.info.setup.registry decl).map ModelFault.basic

def defaultFault? (m : Module) (k : Kind) (datatype : k.Definition → Datatype) :
    OriginDecl k.Decl → Option ModelFault
  | .reference r =>
    (m.meaning? k r.reference).bind fun d =>
      (r.default.bind fun text => faultOf? ((datatype d.definition).parse text)).map .basic
  | .inline _ => none

end OriginDecl

namespace Instance
variable {k : Kind} {m : Module} {owner : Owner} {site : Site} {position : Nat}
  {origin : OriginDecl k.Decl} {i : Instance k}

theorem name_of_writtenIn (hm : m.Built) (h : i.WrittenIn m k origin) :
    origin.nameInUse? m k = some i.name.localName ∧ i.name.space = k.qualifier m := by
  cases h with
  | @reference r _ name form read means space localName =>
    have hmeans := Module.meaning?_eq_some_iff.mpr ⟨name, read, means⟩
    have hused := (hm.usedAsDeclared_of_visible? means).declared
    refine ⟨?_, space⟩
    show Option.map _ (m.meaning? k r.reference) = _
    rw [hmeans, localName, hused]
    rfl
  | @inline decl _ form home prepared space localName =>
    obtain ⟨hused, hdecl⟩ := Placed.usedAsDeclared_of_prepare prepared
    refine ⟨?_, space⟩
    show some _ = _
    rw [localName, hused.declared, hdecl]

theorem name?_of_writtenIn (hm : m.Built) (h : i.WrittenIn m k origin) :
    origin.name? m k = some i.name := by
  obtain ⟨hlocal, hspace⟩ := name_of_writtenIn hm h
  unfold OriginDecl.name?
  rw [hlocal, ← hspace]
  rfl

theorem place_of_build (h : (build k owner site position origin).outcome = .ok i) :
    i.position = position ∧ i.form = origin.form := by
  cases origin with
  | reference r =>
    obtain ⟨d, -, h⟩ := Traced.outcome_bind_eq_ok_iff.mp h
    obtain ⟨name, -, h⟩ := Traced.outcome_bind_eq_ok_iff.mp h
    cases h
    exact ⟨rfl, rfl⟩
  | inline decl =>
    obtain ⟨d, -, h⟩ := Traced.outcome_bind_eq_ok_iff.mp h
    obtain ⟨name, -, h⟩ := Traced.outcome_bind_eq_ok_iff.mp h
    cases h
    exact ⟨rfl, rfl⟩

theorem fault?_basic_make {localName : String} (h : isNcName localName.toList = true)
    (space : Option String) : (Build.basic (QName.make space localName)).fault? = none := by
  rw [Build.fault?_basic, QName.faultOf?_make, ncNameFault?_eq_none_iff.mpr h]
  rfl

theorem fault?_build (hm : owner.home.Built) (site : Site) (position : Nat)
    (origin : OriginDecl k.Decl) :
    (build k owner site position origin).fault? = origin.fault? owner.home k owner.definition := by
  cases origin with
  | reference r =>
    show (ofReference k owner position r).fault? = Option.or _ _
    rw [← Module.fault?_resolve]
    refine Traced.fault?_bind_of fun d hd => ?_
    obtain ⟨name, -, hv⟩ := Module.meaning_of_resolve hd
    -- a name that the definition is used under already is no reason to fail
    have hnc := (hm.usedAsDeclared_of_visible? hv).ncName
    rw [Traced.fault?_bind_none fun _ => rfl]
    cases r.useName with
    | none => exact fault?_basic_make hnc _
    | some useName =>
      rw [Build.fault?_basic]
      exact congrArg _ (QName.faultOf?_make _ useName)
  | inline decl =>
    have hinline : (ofDefinition k owner site position decl).fault? =
        (Build.basic (k.prepare owner.home.info.setup.registry owner.home.info.source none
          decl)).fault?.or none := by
      refine Traced.fault?_bind_of fun definition hp => ?_
      have hhead := Kind.headDecl_of_prepare (Build.eq_ok_of_basic hp)
      have hnc := (DefinitionHead.nameInUse_of_prepare hhead).2
      rw [Traced.fault?_bind_none fun _ => rfl]
      exact fault?_basic_make hnc _
    show (ofDefinition k owner site position decl).fault? = Option.map _ _
    rw [hinline, Option.or_none, Build.fault?_basic, Kind.faultOf?_prepare]

theorem fault?_readDefault (h : i.WrittenIn m k origin) (datatype : k.Definition → Datatype) :
    (origin.readDefault (datatype i.definition.definition)).fault? =
      origin.defaultFault? m k datatype := by
  cases h with
  | @reference r _ name form read means space localName =>
    have hmeans := Module.meaning?_eq_some_iff.mpr ⟨name, read, means⟩
    show (Build.basic (r.default.mapM (datatype i.definition.definition).parse)).fault? =
      Option.bind (m.meaning? k r.reference) _
    rw [hmeans, Build.fault?_basic, faultOf?_mapM]
    rfl
  | inline form home prepared space localName => rfl

end Instance

def FlagChildDecl.fault? (m : Module) (containing : QName) (c : FlagChildDecl) :
    Option ModelFault :=
  (c.origin.fault? m .flag containing).or
    (c.origin.defaultFault? m .flag fun d => d.value.datatype)

theorem FlagInstance.fault?_build {owner : Owner} (hm : owner.home.Built)
    (earlier : List FlagInstance) (c : FlagChildDecl) :
    (FlagInstance.build owner earlier c).fault? = c.fault? owner.home owner.definition := by
  unfold FlagChildDecl.fault?
  rw [← Instance.fault?_build hm (.flag owner.site earlier.length)]
  refine Traced.fault?_bind_of fun base hb => ?_
  rw [Traced.fault?_bind_none fun _ => rfl]
  exact Instance.fault?_readDefault (Instance.writtenIn_of_build hb) fun d => d.value.datatype

def UseDecl.fault? (d : UseDecl) : Option ModelFault :=
  (faultOf? (Occurrence.parse d.minOccurs d.maxOccurs)).map ModelFault.basic

/-- What is wrong with an assembly or field: with the instance as such, or else with the default of
a field, or else with the bounds on its occurrences. -/
def NamedChildDecl.fault? (m : Module) (containing : QName) : NamedChildDecl → Option ModelFault
  | .assembly use origin => (origin.fault? m .assembly containing).or use.fault?
  | .field use _ origin =>
    (origin.fault? m .field containing).or
      ((origin.defaultFault? m .field fun d => d.value.datatype).or use.fault?)

/-- What is wrong with a child of a model. With a choice it is what is wrong with the first that
cannot be built of what it is between; the alternatives of a group are not looked at. -/
def ModelChildDecl.fault? (m : Module) (containing : QName) : ModelChildDecl → Option ModelFault
  | .named child => child.fault? m containing
  | .choice children => children.findSome? (NamedChildDecl.fault? m containing)
  | .group head _ => (faultOf? (Occurrence.parse head.minOccurs head.maxOccurs)).map .basic

theorem UseDecl.fault?_readOccurrence (d : UseDecl) : d.readOccurrence.fault? = d.fault? :=
  Build.fault?_basic _

theorem NamedInstance.fault?_build {owner : Owner} (hm : owner.home.Built) (site : Site)
    (earlier : List NamedInstance) (c : NamedChildDecl) :
    (NamedInstance.build owner site earlier c).fault? = c.fault? owner.home owner.definition := by
  have hbuild : (NamedInstance.build owner site earlier c).fault? =
      (NamedInstance.ofDecl owner site earlier c).fault? := Traced.fault?_bind_none fun _ => rfl
  rw [hbuild]
  cases c with
  | assembly use origin =>
    show _ = Option.or _ use.fault?
    rw [← Instance.fault?_build hm site (countElements .assembly origin.form
      (earlier.map element))]
    refine Traced.fault?_bind_of fun base _ => ?_
    rw [Traced.fault?_bind_none fun _ => rfl]
    exact use.fault?_readOccurrence
  | field use inXml origin =>
    show _ = Option.or _ (Option.or _ use.fault?)
    rw [← Instance.fault?_build hm site (countElements .field origin.form (earlier.map element))]
    refine Traced.fault?_bind_of fun base hb => ?_
    rw [← Instance.fault?_readDefault (Instance.writtenIn_of_build hb)]
    refine Traced.fault?_bind_of fun ownDefault _ => ?_
    rw [Traced.fault?_bind_none fun _ => rfl]
    exact use.fault?_readOccurrence

theorem ModelInstance.fault?_build {owner : Owner} (hm : owner.home.Built)
    (earlier : List ModelInstance) (c : ModelChildDecl) :
    (ModelInstance.build owner earlier c).fault? = c.fault? owner.home owner.definition := by
  cases c with
  | named child =>
    show _ = child.fault? owner.home owner.definition
    rw [← NamedInstance.fault?_build hm (.child owner.site earlier.length)
      (earlier.filterMap named?)]
    exact Traced.fault?_bind_none fun _ => rfl
  | choice children =>
    have hbody : Traced.fault? (Traced.collect (fun made child => NamedInstance.build owner
        (.child (.child owner.site earlier.length) made.length) made child) [] children) =
        children.findSome? (NamedChildDecl.fault? owner.home owner.definition) :=
      Traced.fault?_collect (fun made child => NamedInstance.fault?_build hm _ made child) [] _
    show _ = children.findSome? _
    rw [← hbody]
    exact Traced.fault?_bind_none fun _ => rfl
  | group head alternatives =>
    show _ = Option.map _ _
    rw [← Build.fault?_basic]
    have hgroup : (ChoiceGroup.build owner (.child owner.site earlier.length)
        (earlier.filterMap group?) head alternatives).fault? =
        (Build.basic (Occurrence.parse head.minOccurs head.maxOccurs)).fault? :=
      Traced.fault?_bind_none fun _ => rfl
    rw [← hgroup]
    exact Traced.fault?_bind_none fun _ => rfl

namespace Sample

def textModule (d : ModuleDecl) : Module :=
  match Module.assemble textSetup 0 d none [] with
  | .ok m => m
  | .error _ => library

theorem built_textModule {d : ModuleDecl}
    (h : Module.assemble textSetup 0 d none [] = .ok (textModule d)) : (textModule d).Built :=
  .intro h (fun _ hi => absurd hi List.not_mem_nil) fun _ hi => absurd hi List.not_mem_nil

def referTo (reference : String) (useName : Option String) : ReferenceDecl :=
  ⟨reference, useName, none, ⟨none, none, [], none⟩⟩

end Sample

end InfoModel

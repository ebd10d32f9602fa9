import InfoModel.Proofs.Building.Ownership
import InfoModel.Proofs.Constraint.Context
import InfoModel.Proofs.Module.Registration
import InfoModel.Proofs.Resolution.Occupant

/-!
# What is built is what is written

The instances in a part stand for what is declared there, one for one and in order. A reference is
read as its module reads it and stands for what the name means in that module; a definition written
in place is prepared for that module and belongs to it. Main statements:
`Aggregate.written_of_build`, `Aggregate.unresolved_of_build`.
-/

namespace InfoModel

theorem Traced.forall₂_collect {σ ε α β : Type} {make : List β → α → Traced σ ε β} {as : List α}
    {made bs : List β} (h : (collect make made as).outcome = .ok bs) :
    ∃ new, bs = made ++ new ∧
      List.Forall₂ (fun a b => ∃ earlier, (make earlier a).outcome = .ok b) as new := by
  induction as generalizing made with
  | nil =>
    cases h
    exact ⟨[], (List.append_nil bs).symm, .nil⟩
  | cons a as ih =>
    obtain ⟨b, hb, h⟩ := outcome_bind_eq_ok_iff.mp h
    obtain ⟨new, hnew, hrest⟩ := ih h
    refine ⟨b :: new, ?_, .cons ⟨made, hb⟩ hrest⟩
    rw [hnew, List.append_assoc, List.singleton_append]

/-- What holds of everything that is made holds of all that is collected. -/
theorem Traced.forall₂_of_collect {σ ε α β : Type} {make : List β → α → Traced σ ε β}
    {R : α → β → Prop} (hmake : ∀ earlier a b, (make earlier a).outcome = .ok b → R a b)
    {as : List α} {bs : List β} (h : (collect make [] as).outcome = .ok bs) :
    List.Forall₂ R as bs := by
  obtain ⟨new, rfl, hnew⟩ := forall₂_collect h
  refine hnew.imp ?_
  rintro a b ⟨earlier, hb⟩
  exact hmake earlier a b hb

theorem QName.of_make {space : Option String} {localName : String} {q : QName}
    (h : make space localName = .ok q) :
    q.space = space.filter (fun s => !s.isEmpty) ∧ q.localName = localName := by
  unfold make at h
  split at h
  · cases h
  · cases h
    exact ⟨rfl, rfl⟩

def Module.qualifier (m : Module) : Option String := m.space.filter fun s => !s.isEmpty

def Kind.qualifier (m : Module) : Kind → Option String
  | .flag => none
  | .field => m.qualifier
  | .assembly => m.qualifier

theorem Kind.filter_instanceSpace (m : Module) (k : Kind) :
    ((k.instanceSpace m).filter fun s => !s.isEmpty) = k.qualifier m := by
  cases k <;> rfl

theorem Build.eq_ok_of_basic {x : Except Fault α} {a : α} (h : (Build.basic x).outcome = .ok a) :
    x = .ok a :=
  orBasic_eq_ok_iff.mp h

/-- The instance stands for what is written in the module `m`. Its name has the namespace of `m`,
unless it is a flag, wherever its definition comes from. -/
inductive Instance.WrittenIn (m : Module) (k : Kind) : OriginDecl k.Decl → Instance k → Prop where
  | reference {r : ReferenceDecl} {i : Instance k} {name : QName} (form : i.form = .reference)
      (read : m.info.source.readName r.reference = .ok name)
      (means : m.visible? k name = some i.definition) (space : i.name.space = k.qualifier m)
      (localName : i.name.localName = r.useName.getD i.definition.head.effectiveName.localName) :
      WrittenIn m k (.reference r) i
  | inline {decl : k.Decl} {i : Instance k} (form : i.form = .inline)
      (home : i.definition.home = m)
      (prepared : k.prepare m.info.setup.registry m.info.source none decl =
        .ok i.definition.definition)
      (space : i.name.space = k.qualifier m)
      (localName : i.name.localName = i.definition.head.effectiveName.localName) :
      WrittenIn m k (.inline decl) i

theorem Module.meaning_of_resolve {m : Module} {k : Kind} {reference : String}
    {containing : QName} {d : Placed k} (h : (m.resolve k reference containing).outcome = .ok d) :
    ∃ name, m.info.source.readName reference = .ok name ∧ m.visible? k name = some d := by
  obtain ⟨name, hn, h⟩ := Traced.outcome_bind_eq_ok_iff.mp h
  obtain ⟨found, hfound, h⟩ := Traced.outcome_bind_eq_ok_iff.mp h
  rw [find_eq] at hfound
  cases hfound
  refine ⟨name, Build.eq_ok_of_basic hn, ?_⟩
  split at h
  · rename_i e he
    cases h
    exact he
  · cases h

theorem Instance.writtenIn_of_build {k : Kind} {owner : Owner} {site : Site} {position : Nat}
    {origin : OriginDecl k.Decl} {i : Instance k}
    (h : (Instance.build k owner site position origin).outcome = .ok i) :
    i.WrittenIn owner.home k origin := by
  cases origin with
  | reference r =>
    obtain ⟨d, hd, h⟩ := Traced.outcome_bind_eq_ok_iff.mp h
    obtain ⟨name, hn, h⟩ := Traced.outcome_bind_eq_ok_iff.mp h
    cases h
    obtain ⟨read, hread, hmeans⟩ := Module.meaning_of_resolve hd
    obtain ⟨hspace, hlocal⟩ := QName.of_make (Build.eq_ok_of_basic hn)
    rw [Kind.filter_instanceSpace] at hspace
    exact .reference rfl hread hmeans hspace hlocal
  | inline decl =>
    obtain ⟨d, hd, h⟩ := Traced.outcome_bind_eq_ok_iff.mp h
    obtain ⟨name, hn, h⟩ := Traced.outcome_bind_eq_ok_iff.mp h
    cases h
    obtain ⟨hspace, hlocal⟩ := QName.of_make (Build.eq_ok_of_basic hn)
    rw [Kind.filter_instanceSpace] at hspace
    exact .inline rfl rfl (Build.eq_ok_of_basic hd) hspace hlocal

def FlagSet.WrittenIn (m : Module) (children : List FlagChildDecl) (s : FlagSet) : Prop :=
  List.Forall₂ (fun c i => i.base.WrittenIn m .flag c.origin) children s.instances

theorem FlagSet.writtenIn_of_build {owner : Owner} {jsonKey : Option String}
    {children : List FlagChildDecl} {s : FlagSet}
    (h : (FlagSet.build owner jsonKey children).outcome = .ok s) :
    s.WrittenIn owner.home children := by
  refine Traced.forall₂_of_collect ?_ (FlagSet.instances_of_build h)
  intro earlier c i hi
  obtain ⟨base, hb, hi⟩ := Traced.outcome_bind_eq_ok_iff.mp hi
  obtain ⟨ownDefault, -, hi⟩ := Traced.outcome_bind_eq_ok_iff.mp hi
  obtain ⟨-, -, hi⟩ := Traced.outcome_bind_eq_ok_iff.mp hi
  cases hi
  exact Instance.writtenIn_of_build hb

inductive NamedInstance.WrittenIn (m : Module) : NamedChildDecl → NamedInstance → Prop where
  | assembly {use : UseDecl} {origin : OriginDecl AssemblyDecl} {i : AssemblyInstance}
      (base : i.base.WrittenIn m .assembly origin) :
      WrittenIn m (.assembly use origin) (.assembly i)
  | field {use : UseDecl} {inXml : Option XmlWrapping} {origin : OriginDecl FieldDecl}
      {i : FieldInstance} (base : i.base.WrittenIn m .field origin) :
      WrittenIn m (.field use inXml origin) (.field i)

theorem NamedInstance.writtenIn_of_build {owner : Owner} {site : Site}
    {earlier : List NamedInstance} {d : NamedChildDecl} {i : NamedInstance}
    (h : (NamedInstance.build owner site earlier d).outcome = .ok i) :
    i.WrittenIn owner.home d := by
  obtain ⟨j, hj, h⟩ := Traced.outcome_bind_eq_ok_iff.mp h
  obtain ⟨-, -, h⟩ := Traced.outcome_bind_eq_ok_iff.mp h
  cases h
  cases d with
  | assembly use origin =>
    obtain ⟨base, hb, hj⟩ := Traced.outcome_bind_eq_ok_iff.mp hj
    obtain ⟨occurrence, -, hj⟩ := Traced.outcome_bind_eq_ok_iff.mp hj
    cases hj
    exact .assembly (Instance.writtenIn_of_build hb)
  | field use inXml origin =>
    obtain ⟨base, hb, hj⟩ := Traced.outcome_bind_eq_ok_iff.mp hj
    obtain ⟨ownDefault, -, hj⟩ := Traced.outcome_bind_eq_ok_iff.mp hj
    obtain ⟨occurrence, -, hj⟩ := Traced.outcome_bind_eq_ok_iff.mp hj
    cases hj
    exact .field (Instance.writtenIn_of_build hb)

/-- A group keeps its alternatives as they are written; they are built when they are asked for. -/
inductive ModelInstance.WrittenIn (m : Module) : ModelChildDecl → ModelInstance → Prop where
  | named {child : NamedChildDecl} {i : NamedInstance} (h : i.WrittenIn m child) :
      WrittenIn m (.named child) (.named i)
  | choice {children : List NamedChildDecl} {c : Choice}
      (body : List.Forall₂ (NamedInstance.WrittenIn m) children c.body) :
      WrittenIn m (.choice children) (.choice c)
  | group {g : ChoiceGroup} {head : GroupHeadDecl} {alternatives : List AlternativeDecl}
      (home : g.owner.home = m) (kept : g.head = head ∧ g.alternatives = alternatives) :
      WrittenIn m (.group head alternatives) (.group g)

theorem ModelInstance.writtenIn_of_build {owner : Owner} {earlier : List ModelInstance}
    {d : ModelChildDecl} {i : ModelInstance}
    (h : (ModelInstance.build owner earlier d).outcome = .ok i) : i.WrittenIn owner.home d := by
  cases d with
  | named child =>
    obtain ⟨j, hj, h⟩ := Traced.outcome_bind_eq_ok_iff.mp h
    cases h
    exact .named (NamedInstance.writtenIn_of_build hj)
  | choice children =>
    obtain ⟨body, hb, h⟩ := Traced.outcome_bind_eq_ok_iff.mp h
    cases h
    refine .choice (Traced.forall₂_of_collect ?_ hb)
    exact fun earlier c i hi => NamedInstance.writtenIn_of_build hi
  | group head alternatives =>
    obtain ⟨g, hg, h⟩ := Traced.outcome_bind_eq_ok_iff.mp h
    cases h
    obtain ⟨occurrence, -, hg⟩ := Traced.outcome_bind_eq_ok_iff.mp hg
    obtain ⟨-, -, hg⟩ := Traced.outcome_bind_eq_ok_iff.mp hg
    cases hg
    exact .group rfl ⟨rfl, rfl⟩

def Model.WrittenIn (m : Module) (children : List ModelChildDecl) (model : Model) : Prop :=
  List.Forall₂ (ModelInstance.WrittenIn m) children model.instances

theorem Placed.writtenIn_of_buildModel {d : Placed .assembly} {model : Model}
    (h : d.buildModel.outcome = .ok model) : model.WrittenIn d.home d.decl.model := by
  obtain ⟨instances, hc, h⟩ := Traced.outcome_bind_eq_ok_iff.mp h
  obtain ⟨-, -, h⟩ := Traced.outcome_bind_eq_ok_iff.mp h
  cases h
  refine Traced.forall₂_of_collect ?_ hc
  exact fun earlier c i hi => ModelInstance.writtenIn_of_build hi

inductive Alternative.WrittenIn (m : Module) : AlternativeDecl → Alternative → Prop where
  | assembly {discriminator jsonKey : Option String} {origin : OriginDecl AssemblyDecl}
      {i : Instance .assembly} (base : i.WrittenIn m .assembly origin) :
      WrittenIn m (.assembly discriminator origin) ⟨.assembly i, discriminator, jsonKey⟩
  | field {discriminator jsonKey : Option String} {origin : OriginDecl FieldDecl}
      {i : Instance .field} (base : i.WrittenIn m .field origin) :
      WrittenIn m (.field discriminator origin) ⟨.field i, discriminator, jsonKey⟩

theorem Alternative.writtenIn_of_build {owner : Owner} {jsonKey : Option String}
    {earlier : List Alternative} {d : AlternativeDecl} {a : Alternative}
    (h : (Alternative.build owner jsonKey earlier d).outcome = .ok a) :
    a.WrittenIn owner.home d := by
  obtain ⟨j, hj, h⟩ := Traced.outcome_bind_eq_ok_iff.mp h
  obtain ⟨-, -, h⟩ := Traced.outcome_bind_eq_ok_iff.mp h
  cases h
  cases d with
  | assembly discriminator origin =>
    obtain ⟨base, hb, hj⟩ := Traced.outcome_bind_eq_ok_iff.mp hj
    cases hj
    exact .assembly (Instance.writtenIn_of_build hb)
  | field discriminator origin =>
    obtain ⟨base, hb, hj⟩ := Traced.outcome_bind_eq_ok_iff.mp hj
    cases hj
    exact .field (Instance.writtenIn_of_build hb)

def Alternatives.WrittenIn (m : Module) (ds : List AlternativeDecl) (as : Alternatives) : Prop :=
  List.Forall₂ (Alternative.WrittenIn m) ds as.instances

theorem ChoiceGroup.writtenIn_of_buildAlternatives {g : ChoiceGroup} {as : Alternatives}
    (h : g.buildAlternatives.outcome = .ok as) : as.WrittenIn g.owner.home g.alternatives := by
  obtain ⟨instances, hc, h⟩ := Traced.outcome_bind_eq_ok_iff.mp h
  obtain ⟨-, -, h⟩ := Traced.outcome_bind_eq_ok_iff.mp h
  cases h
  refine Traced.forall₂_of_collect ?_ hc
  exact fun earlier c a ha => Alternative.writtenIn_of_build ha

structure ConstraintSet.From (source : Source) (c : ConstraintSet) : Prop where
  lets : ∀ l ∈ c.lets, l.source = source
  rules : ∀ rule ∈ c.rules, rule.head.source = source

theorem Let.source_of_compile {source : Source} {d : LetDecl} {l : Let}
    (h : Let.compile source d = .ok l) : l.source = source := by
  unfold Let.compile at h
  split at h
  · cases h
    rfl
  · cases h

theorem from_of_compileBlock {source : Source} {make : RuleDecl γ → Compiled Rule}
    {event : Nat → Nat → Event}
    (hmake : ∀ d rule, (make d).outcome = .ok rule → rule.head.source = source)
    {d : ConstraintDecl γ} {c : ConstraintSet}
    (h : (compileBlock source make event d).outcome = .ok c) : c.From source := by
  obtain ⟨lets, hl, h⟩ := Traced.outcome_bind_eq_ok_iff.mp h
  obtain ⟨rules, hr, h⟩ := Traced.outcome_bind_eq_ok_iff.mp h
  obtain ⟨-, -, h⟩ := Traced.outcome_bind_eq_ok_iff.mp h
  cases h
  have hlets : d.lets.mapM (Let.compile source) = .ok lets := hl
  rw [Traced.outcome_mapM] at hr
  exact ⟨Except.forall_of_listMapM (fun _ _ => Let.source_of_compile) hlets,
    Except.forall_of_listMapM hmake hr⟩

theorem source_of_compileModelRule {r : Registry} {source : Source} {d : RuleDecl ModelCheckDecl}
    {rule : Rule} (h : (compileModelRule r source d).outcome = .ok rule) :
    rule.head.source = source := by
  obtain ⟨check, -, h⟩ := Traced.outcome_bind_eq_ok_iff.mp h
  cases h
  rfl

theorem source_of_compileValueRule {r : Registry} {source : Source} {context : ValueContext}
    {d : RuleDecl ValueCheckDecl} {rule : Rule}
    (h : (compileValueRule r source context d).outcome = .ok rule) :
    rule.head.source = source := by
  obtain ⟨check, -, h⟩ := Traced.outcome_bind_eq_ok_iff.mp h
  cases context with
  | field =>
    cases h
    rfl
  | flag =>
    obtain ⟨head, hh, h⟩ := Traced.outcome_bind_eq_ok_iff.mp h
    rw [outcome_compileFlagHead] at hh
    cases hh
    cases h
    rfl

theorem outcome_compiledFor_eq_ok_iff {m : Module} {definition : QName}
    {x : Compiled ConstraintSet} {c : ConstraintSet} :
    (compiledFor m definition x).outcome = .ok c ↔ x.outcome = .ok c := by
  unfold compiledFor Traced.mapStep Traced.mapFault
  cases x.outcome with
  | ok c' => simp
  | error e => simp

/-- The constraints of a definition come from where the definition comes from. -/
theorem Placed.from_of_buildConstraints {k : Kind} {d : Placed k} {c : ConstraintSet}
    (h : (buildConstraints k d).outcome = .ok c) : c.From d.head.source := by
  have hnone : ConstraintSet.empty.From d.head.source :=
    ⟨fun l hl => absurd hl List.not_mem_nil, fun r hr => absurd hr List.not_mem_nil⟩
  cases k with
  | assembly =>
    dsimp only [buildConstraints] at h
    split at h
    · exact from_of_compileBlock (fun _ _ => source_of_compileModelRule)
        (outcome_compiledFor_eq_ok_iff.mp h)
    · cases h
      exact hnone
  | field =>
    dsimp only [buildConstraints] at h
    split at h
    · exact from_of_compileBlock (fun _ _ => source_of_compileValueRule)
        (outcome_compiledFor_eq_ok_iff.mp h)
    · cases h
      exact hnone
  | flag =>
    dsimp only [buildConstraints] at h
    split at h
    · exact from_of_compileBlock (fun _ _ => source_of_compileValueRule)
        (outcome_compiledFor_eq_ok_iff.mp h)
    · cases h
      exact hnone

namespace Aggregate

/-- The content of the part stands for what is written for it, as its module means it. -/
def Written : (a : Aggregate) → a.Content → Prop
  | .assemblyFlags d, s => s.WrittenIn d.home d.decl.flags
  | .fieldFlags d, s => s.WrittenIn d.home d.decl.flags
  | .model d, m => m.WrittenIn d.home d.decl.model
  | .constraints _ d, c => c.From d.head.source
  | .alternatives g, as => as.WrittenIn g.owner.home g.alternatives

theorem written_of_build {a : Aggregate} {c : a.Content} (h : a.part.build.outcome = .ok c) :
    a.Written c := by
  cases a with
  | assemblyFlags d => exact FlagSet.writtenIn_of_build h
  | fieldFlags d => exact FlagSet.writtenIn_of_build (Placed.build_of_buildFieldFlags h)
  | model d => exact Placed.writtenIn_of_buildModel h
  | constraints k d => exact Placed.from_of_buildConstraints h
  | alternatives g => exact ChoiceGroup.writtenIn_of_buildAlternatives h

theorem every_build {a : Aggregate} {P : Step → Prop} {E : ModelFault → Prop}
    (h : Build.Permits a.home P E) : a.part.build.Every P E := by
  cases a with
  | assemblyFlags d => exact FlagSet.every_build h d.decl.jsonKey d.decl.flags
  | fieldFlags d => exact Placed.every_buildFieldFlags h
  | model d => exact Placed.every_buildModel h
  | constraints k d => exact Placed.every_buildConstraints d h.notice h.constraint
  | alternatives g => exact ChoiceGroup.every_buildAlternatives h

/-- A part fails for an unresolved reference only if its module reads the reference as a name that
means nothing there. -/
theorem unresolved_of_build {a : Aggregate} {k : Kind} {reference definition owner : String}
    (h : a.part.build.outcome = .error (.unresolvedReference k reference definition owner)) :
    owner = a.home.shortName ∧
      ∃ name, a.home.info.source.readName reference = .ok name ∧
        a.home.visible? k name = none := by
  have hpermits : Build.Permits a.home (fun _ => True) fun e =>
      ∀ k reference definition owner, e = .unresolvedReference k reference definition owner →
        owner = a.home.shortName ∧ ∃ name, a.home.info.source.readName reference = .ok name ∧
          a.home.visible? k name = none := by
    refine ⟨fun _ _ _ _ => trivial, fun _ _ => trivial, ?_, ?_, ?_, ?_, ?_⟩
    · intro f k reference definition owner he
      cases he
    · intro k reference name hread hmeans definition k' reference' definition' owner he
      cases he
      exact ⟨rfl, name, hread, hmeans⟩
    · intro flag name k reference definition owner he
      cases he
    · intro flag name k reference definition owner he
      cases he
    · intro name f k reference definition owner he
      cases he
  exact (every_build hpermits).fault _ h k reference definition owner rfl

end Aggregate

end InfoModel

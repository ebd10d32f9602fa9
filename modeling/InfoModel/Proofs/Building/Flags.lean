import InfoModel.Proofs.Building.Refusal
import InfoModel.Proofs.Collection.View
import InfoModel.Proofs.Query.Once

/-!
# Flags

Flags are built unless one of them cannot be, or the key in JSON names none of them; a flag is named
by its local name, and of several flags with one name the last has it. A field also needs the flag
that holds the key of its value. Main statement: `FlagSet.build_complete`.
-/

namespace InfoModel

/-! ### Events -/

def Build.events (x : Build α) : List Event := x.trace.filterMap Step.event?

namespace Build

theorem events_bind_ok {x : Build α} {a : α} (h : x.outcome = .ok a) (f : α → Build β) :
    (x >>= f).events = x.events ++ (f a).events := by
  unfold events
  rw [Traced.trace_bind_ok h, List.filterMap_append]

theorem events_bind_eq_nil {x : Build α} {f : α → Build β} (hx : x.events = [])
    (hf : ∀ a, (f a).events = []) : (x >>= f).events = [] := by
  cases h : x.outcome with
  | ok a => rw [events_bind_ok h, hx, hf, List.append_nil]
  | error e =>
    unfold events
    rw [Traced.trace_bind_error h]
    exact hx

theorem events_noticeIf_bind (cause : Bool) (e : Event) (x : Build α) :
    (noticeIf cause e >>= fun _ => x).events = (if cause then [e] else []) ++ x.events := by
  have h : (noticeIf cause e).outcome = .ok () := rfl
  rw [events_bind_ok h]
  cases cause <;> rfl

theorem events_collect {κ : Type} [DecidableEq κ] {key : β → κ} {e : β → Event}
    {make : List β → α → Build β}
    (hmake : ∀ made a b, (make made a).outcome = .ok b →
      (make made a).events = if key b ∈ made.map key then [e b] else [])
    {made : List β} {as : List α} {bs : List β}
    (h : (Traced.collect make made as).outcome = .ok bs) :
    (repeats key made).map e ++ events (Traced.collect make made as) =
      (repeats key bs).map e := by
  -- the values made before have left their events already, so they are added on the left
  induction as generalizing made with
  | nil =>
    cases h
    exact List.append_nil _
  | cons a as ih =>
    obtain ⟨b, hb, h⟩ := Traced.outcome_bind_eq_ok_iff.mp h
    have hrest := ih h
    have hcons : events (Traced.collect make made (a :: as)) =
        (make made a).events ++ events (Traced.collect make (made ++ [b]) as) :=
      events_bind_ok hb fun b => Traced.collect make (made ++ [b]) as
    rw [hcons, hmake made a b hb, ← hrest, repeats_append_singleton, List.map_append,
      List.append_assoc]
    by_cases hk : key b ∈ made.map key
    · simp only [if_pos hk, List.map_singleton]
    · simp only [if_neg hk, List.map_nil]

end Build

theorem Instance.events_build (k : Kind) (owner : Owner) (site : Site) (position : Nat)
    (origin : OriginDecl k.Decl) :
    Build.events (Instance.build k owner site position origin) = [] := by
  have hfind : ∀ name, Build.events (owner.home.find k name) = [] := by
    intro name
    unfold Build.events
    rw [Module.find_eq, List.filterMap_map]
    exact List.filterMap_eq_nil_iff.mpr fun m _ => rfl
  cases origin with
  | reference r =>
    refine Build.events_bind_eq_nil ?_ fun d => Build.events_bind_eq_nil rfl fun _ => rfl
    refine Build.events_bind_eq_nil rfl fun name => ?_
    refine Build.events_bind_eq_nil (hfind name) fun found => ?_
    cases found <;> rfl
  | inline decl =>
    exact Build.events_bind_eq_nil rfl fun d => Build.events_bind_eq_nil rfl fun _ => rfl

/-! ### Single flags -/

def FlagChildDecl.nameInUse? (m : Module) (c : FlagChildDecl) : Option String :=
  c.origin.nameInUse? m .flag

def FlagChildDecl.form (c : FlagChildDecl) : Form := c.origin.form

namespace FlagInstance
variable {owner : Owner} {earlier : List FlagChildDecl} {made : List FlagInstance}
  {c : FlagChildDecl} {i : FlagInstance}

structure Renders (m : Module) (earlier : List FlagChildDecl) (c : FlagChildDecl)
    (i : FlagInstance) : Prop where
  written : i.base.WrittenIn m .flag c.origin
  form : i.base.form = c.form
  position : i.base.position = (earlier.map FlagChildDecl.form).count c.form
  space : i.base.name.space = none
  name : c.nameInUse? m = some i.localName

theorem renders_of_build (hm : owner.home.Built) (hmade : InTurn (Renders owner.home) earlier made)
    (h : (FlagInstance.build owner made c).outcome = .ok i) : i.Renders owner.home earlier c := by
  obtain ⟨base, hb, h⟩ := Traced.outcome_bind_eq_ok_iff.mp h
  obtain ⟨ownDefault, -, h⟩ := Traced.outcome_bind_eq_ok_iff.mp h
  obtain ⟨-, -, h⟩ := Traced.outcome_bind_eq_ok_iff.mp h
  cases h
  have hwritten := Instance.writtenIn_of_build hb
  obtain ⟨hname, hspace⟩ := Instance.name_of_writtenIn hm hwritten
  obtain ⟨hposition, hform⟩ := Instance.place_of_build hb
  refine ⟨hwritten, hform, ?_, hspace, hname⟩
  rw [← hmade.map_eq fun _ _ _ hi => hi.form, List.count_eq_countP, List.countP_map]
  refine hposition.trans ?_
  rw [← List.countP_eq_length_filter]
  exact List.countP_congr fun i _ => by simp [FlagChildDecl.form]

theorem events_build (h : (FlagInstance.build owner made c).outcome = .ok i) :
    Build.events (FlagInstance.build owner made c) =
      if i.localName ∈ made.map localName then
        [.repeatedFlag i.base.name.text owner.definition.text] else [] := by
  obtain ⟨base, hb, h⟩ := Traced.outcome_bind_eq_ok_iff.mp h
  obtain ⟨ownDefault, hd, h⟩ := Traced.outcome_bind_eq_ok_iff.mp h
  obtain ⟨-, -, h⟩ := Traced.outcome_bind_eq_ok_iff.mp h
  cases h
  have hdefault : Build.events (c.origin.readDefault base.definition.definition.value.datatype) =
      [] := by
    cases c.origin <;> rfl
  have htaken : ∀ name : String,
      (made.any fun e => e.localName = name) = decide (name ∈ made.map localName) := by
    intro name
    rw [Bool.eq_iff_iff, List.any_eq_true, decide_eq_true_iff, List.mem_map]
    exact exists_congr fun e => and_congr_right fun _ => decide_eq_true_iff
  unfold FlagInstance.build
  rw [Build.events_bind_ok hb, Instance.events_build, Build.events_bind_ok hd, hdefault,
    Build.events_noticeIf_bind, htaken]
  simp only [decide_eq_true_eq, List.nil_append]
  exact List.append_nil _

end FlagInstance

/-! ### All flags of a definition -/

namespace FlagSet
variable {m : Module} {owner : Owner} {jsonKey : Option String} {children : List FlagChildDecl}
  {s : FlagSet}

/-- The flags stand for the declarations one for one, and a name finds the last flag with it. -/
structure Renders (m : Module) (jsonKey : Option String) (children : List FlagChildDecl)
    (s : FlagSet) : Prop where
  instances : InTurn (FlagInstance.Renders m) children s.instances
  flag : ∀ name, s.flag? name = s.instances.findRev? fun i => i.localName = name
  key : s.jsonKeyFlag? = jsonKey.bind s.flag?
  found : ∀ key, jsonKey = some key → (s.flag? key).isSome

def NamesFlag (m : Module) (children : List FlagChildDecl) (key : Option String) : Prop :=
  ∀ k, key = some k → ∃ c ∈ children, c.nameInUse? m = some k

def keyFault? (m : Module) (children : List FlagChildDecl) (fault : String → ModelFault)
    (key : Option String) : Option ModelFault :=
  key.bind fun k =>
    if some k ∈ children.map (FlagChildDecl.nameInUse? m) then none else some (fault k)

theorem keyFault?_eq_none_iff {fault : String → ModelFault} {key : Option String} :
    keyFault? m children fault key = none ↔ NamesFlag m children key := by
  unfold keyFault? NamesFlag
  rw [Option.bind_eq_none_iff]
  refine forall_congr' fun k => imp_congr_right fun _ => ?_
  rw [ite_eq_left_iff, List.mem_map]
  simp

theorem isSome_flag?_iff (h : InTurn (FlagInstance.Renders m) children s.instances)
    (key : String) :
    (s.flag? key).isSome ↔ some key ∈ children.map (FlagChildDecl.nameInUse? m) := by
  have hnames := h.map_eq (g := fun i => some i.localName) fun _ _ _ hi => hi.name.symm
  unfold flag? byName
  rw [← hnames, NamedMap.get?_byKey, List.findRev?_eq_find?_reverse, List.find?_isSome]
  simp

/-- What goes on only if a key names a flag fails with the fault of the key. -/
theorem fault?_demand (h : InTurn (FlagInstance.Renders m) children s.instances)
    (fault : String → ModelFault) (key : Option String) (rest : Build α)
    (hrest : rest.fault? = none) :
    Traced.fault? (match key with
      | some k =>
        if (s.flag? k).isNone then Traced.fail (fault k) >>= fun _ : Unit => rest else rest
      | none => rest) = keyFault? m children fault key := by
  cases key with
  | none => exact hrest
  | some k =>
    have hnone : (s.flag? k).isNone = true ↔
        some k ∉ children.map (FlagChildDecl.nameInUse? m) := by
      rw [← isSome_flag?_iff h, Option.isNone_iff_eq_none, Option.not_isSome_iff_eq_none]
    show _ = if _ then none else some (fault k)
    dsimp only
    by_cases hk : some k ∈ children.map (FlagChildDecl.nameInUse? m)
    · rw [if_pos hk, if_neg fun hn => hnone.mp hn hk]
      exact hrest
    · rw [if_neg hk, if_pos (hnone.mpr hk)]
      rfl

theorem inTurn_of_build (hm : owner.home.Built) {made : List FlagInstance}
    (h : (Traced.collect (FlagInstance.build owner) [] children).outcome = .ok made) :
    InTurn (FlagInstance.Renders owner.home) children made :=
  Traced.inTurn_of_collect (fun _ _ _ _ hmade hi => FlagInstance.renders_of_build hm hmade hi) h

theorem fault?_build (hm : owner.home.Built) (jsonKey : Option String)
    (children : List FlagChildDecl) :
    (FlagSet.build owner jsonKey children).fault? =
      (children.findSome? (FlagChildDecl.fault? owner.home owner.definition)).or
        (keyFault? owner.home children
          (fun key => .invalidJsonKey key owner.definition.text owner.home.shortName) jsonKey) := by
  rw [← Traced.fault?_collect (FlagInstance.fault?_build hm) []]
  refine Traced.fault?_bind_of fun instances hc => ?_
  -- once all are built, the names to look for the key among are those that are declared
  have hall : InTurn _ children (FlagSet.mk instances jsonKey).instances := inTurn_of_build hm hc
  have hdemand := fault?_demand hall
    (fun key => .invalidJsonKey key owner.definition.text owner.home.shortName) jsonKey
    (Build.noticeIf (!children.isEmpty)
      (.builtFlags owner.definition.text instances.length) >>= fun _ =>
        pure (mk instances jsonKey)) rfl
  rw [← hdemand]
  cases jsonKey <;> rfl

theorem of_build (h : (FlagSet.build owner jsonKey children).outcome = .ok s) :
    s.jsonKey = jsonKey ∧ Build.events (FlagSet.build owner jsonKey children) =
      Build.events (Traced.collect (FlagInstance.build owner) [] children) ++
        if children.isEmpty then []
        else [.builtFlags owner.definition.text s.instances.length] := by
  obtain ⟨instances, hc, h⟩ := Traced.outcome_bind_eq_ok_iff.mp h
  have hlast : ∀ s' : FlagSet, Build.events (Build.noticeIf (!children.isEmpty)
      (.builtFlags owner.definition.text instances.length) >>= fun _ => pure s') =
      if children.isEmpty then [] else [.builtFlags owner.definition.text instances.length] := by
    intro s'
    rw [Build.events_noticeIf_bind]
    cases children <;> rfl
  unfold FlagSet.build
  rw [Build.events_bind_ok hc]
  cases jsonKey with
  | none =>
    cases h
    exact ⟨rfl, congrArg _ (hlast _)⟩
  | some key =>
    dsimp only at h ⊢
    by_cases hk : (flag? ⟨instances, some key⟩ key).isNone = true
    · rw [if_pos hk] at h
      cases h
    · rw [if_neg hk] at h ⊢
      cases h
      exact ⟨rfl, congrArg _ (hlast _)⟩

theorem renders_of_build (hm : owner.home.Built)
    (h : (FlagSet.build owner jsonKey children).outcome = .ok s) :
    s.Renders owner.home jsonKey children := by
  have hall := inTurn_of_build hm (instances_of_build h)
  have hfault : (FlagSet.build owner jsonKey children).fault? = none :=
    faultOf?_eq_none_iff.mpr ⟨s, h⟩
  rw [fault?_build hm, Option.or_eq_none_iff, keyFault?_eq_none_iff] at hfault
  refine ⟨hall, fun name => NamedMap.get?_byKey _ _ _, ?_, ?_⟩
  · unfold jsonKeyFlag?
    rw [(of_build h).1]
  · intro key hkey
    obtain ⟨c, hc, hname⟩ := hfault.2 key hkey
    exact (isSome_flag?_iff hall key).mpr (List.mem_map.mpr ⟨c, hc, hname⟩)

theorem events_build (h : (FlagSet.build owner jsonKey children).outcome = .ok s) :
    Build.events (FlagSet.build owner jsonKey children) =
      (repeats FlagInstance.localName s.instances).map
          (fun i => .repeatedFlag i.base.name.text owner.definition.text) ++
        if children.isEmpty then []
        else [.builtFlags owner.definition.text s.instances.length] := by
  have hmake : ∀ made c i, (FlagInstance.build owner made c).outcome = .ok i →
      Build.events (FlagInstance.build owner made c) =
        if i.localName ∈ made.map FlagInstance.localName then
          [.repeatedFlag i.base.name.text owner.definition.text] else [] :=
    fun made c i hi => FlagInstance.events_build hi
  have hcollect := Build.events_collect (e := fun i : FlagInstance =>
    .repeatedFlag i.base.name.text owner.definition.text) hmake (instances_of_build h)
  rw [(of_build h).2, ← hcollect]
  rfl

end FlagSet

theorem Placed.fault?_buildFieldFlags {d : Placed .field} (hm : d.home.Built) :
    d.buildFieldFlags.fault? =
      (FlagSet.build d.owner d.decl.jsonKey d.decl.flags).fault?.or
        (FlagSet.keyFault? d.home d.decl.flags
          (fun key => .invalidJsonValueKeyFlag key d.name.text d.home.shortName)
          d.decl.jsonValueKeyFlag) := by
  refine Traced.fault?_bind_of fun s hs => ?_
  have howner : d.owner.home.Built := hm
  have hall := (FlagSet.renders_of_build howner hs).instances
  have hdemand := FlagSet.fault?_demand hall
    (fun key => .invalidJsonValueKeyFlag key d.name.text d.home.shortName) d.decl.jsonValueKeyFlag
    (pure s) rfl
  refine Eq.trans ?_ hdemand
  cases d.decl.jsonValueKeyFlag <;> rfl

/-- The flags of a field are the flags as such, if one of them can hold the key of the value. -/
theorem Placed.buildFieldFlags_eq_ok_iff {d : Placed .field} (hm : d.home.Built) {s : FlagSet} :
    d.buildFieldFlags.outcome = .ok s ↔
      (FlagSet.build d.owner d.decl.jsonKey d.decl.flags).outcome = .ok s ∧
        FlagSet.NamesFlag d.home d.decl.flags d.decl.jsonValueKeyFlag := by
  have hfault := fault?_buildFieldFlags hm
  constructor
  · intro h
    have hnone : d.buildFieldFlags.fault? = none := faultOf?_eq_none_iff.mpr ⟨s, h⟩
    rw [hfault, Option.or_eq_none_iff, FlagSet.keyFault?_eq_none_iff] at hnone
    exact ⟨build_of_buildFieldFlags h, hnone.2⟩
  · rintro ⟨h, hnames⟩
    have hbuild : (FlagSet.build d.owner d.decl.jsonKey d.decl.flags).fault? = none :=
      faultOf?_eq_none_iff.mpr ⟨s, h⟩
    rw [hbuild, FlagSet.keyFault?_eq_none_iff.mpr hnames] at hfault
    obtain ⟨s', hs'⟩ := faultOf?_eq_none_iff.mp hfault
    -- the field has the flags that are built for it as such, and they are built only once
    have hsame := (build_of_buildFieldFlags hs').symm.trans h
    cases hsame
    exact hs'

/-- Flags of a built module can be built if each of them can be and the key in JSON, if there is
one, is the name of one of them; otherwise the first that cannot be built decides the fault, or else
the key does. What is built stands for what is declared, a name finds the last flag with it, and
each flag is noticed whose name an earlier one has. The flags of a field are the same ones, unless
the flag that is to hold the key of the value is none of them. -/
theorem FlagSet.build_complete {owner : Owner} (hm : owner.home.Built) (jsonKey : Option String)
    (children : List FlagChildDecl) :
    ((∃ s, (build owner jsonKey children).outcome = .ok s) ↔
      (∀ c ∈ children, c.fault? owner.home owner.definition = none) ∧
        NamesFlag owner.home children jsonKey) ∧
    (∀ e, (build owner jsonKey children).outcome = .error e ↔
      (children.findSome? (FlagChildDecl.fault? owner.home owner.definition)).or
        (keyFault? owner.home children
          (fun key => .invalidJsonKey key owner.definition.text owner.home.shortName) jsonKey) =
        some e) ∧
    (∀ s, (build owner jsonKey children).outcome = .ok s →
      s.Renders owner.home jsonKey children ∧
      Build.events (build owner jsonKey children) =
        (repeats FlagInstance.localName s.instances).map
            (fun i => .repeatedFlag i.base.name.text owner.definition.text) ++
          if children.isEmpty then []
          else [.builtFlags owner.definition.text s.instances.length]) ∧
    build owner none [] = pure ⟨[], none⟩ ∧
    ∀ d : Placed .field, d.home.Built →
      (∀ s, d.buildFieldFlags.outcome = .ok s ↔
        (build d.owner d.decl.jsonKey d.decl.flags).outcome = .ok s ∧
          NamesFlag d.home d.decl.flags d.decl.jsonValueKeyFlag) ∧
      (∀ e, d.buildFieldFlags.outcome = .error e ↔
        (build d.owner d.decl.jsonKey d.decl.flags).fault?.or
          (keyFault? d.home d.decl.flags
            (fun key => .invalidJsonValueKeyFlag key d.name.text d.home.shortName)
            d.decl.jsonValueKeyFlag) = some e) ∧
      ∀ s, d.buildFieldFlags.outcome = .ok s →
        d.definition.valueKeyFlag? s = d.decl.jsonValueKeyFlag.bind s.flag? ∧
        ∀ key, d.decl.jsonValueKeyFlag = some key → (s.flag? key).isSome := by
  have hfault := fault?_build hm jsonKey children
  refine ⟨?_, ?_, fun s h => ⟨renders_of_build hm h, events_build h⟩, rfl, ?_⟩
  · rw [← List.findSome?_eq_none_iff, ← keyFault?_eq_none_iff, ← Option.or_eq_none_iff, ← hfault]
    exact faultOf?_eq_none_iff.symm
  · intro e
    rw [← hfault]
    exact faultOf?_eq_some_iff.symm
  · intro d hd
    refine ⟨fun s => d.buildFieldFlags_eq_ok_iff hd, ?_, ?_⟩
    · intro e
      rw [← d.fault?_buildFieldFlags hd]
      exact faultOf?_eq_some_iff.symm
    · intro s hs
      refine ⟨rfl, fun key hkey => ?_⟩
      obtain ⟨hbuild, hnames⟩ := (d.buildFieldFlags_eq_ok_iff hd).mp hs
      obtain ⟨c, hc, hname⟩ := hnames key hkey
      have howner : d.owner.home.Built := hd
      have hall := (renders_of_build howner hbuild).instances
      exact (isSome_flag?_iff hall key).mpr (List.mem_map.mpr ⟨c, hc, hname⟩)

namespace Sample

def textFlag (name : String) (useName : Option String) : FlagDecl :=
  ⟨⟨name, none, none, useName, none, ⟨none, none, [], none⟩⟩, ⟨none, none⟩, none⟩

def tagFlags : List FlagChildDecl :=
  [⟨none, .reference (referTo "id" none)⟩, ⟨none, .inline (textFlag "key" none)⟩,
    ⟨none, .reference (referTo "id" (some "alt"))⟩]

def tagField (name : String) (jsonValueKeyFlag : String) : FieldDecl :=
  ⟨headed name, ⟨none, none⟩, some "key", none, some jsonValueKeyFlag, tagFlags, none⟩

/-- A flag is looked for by the name that it is used under, not by the one it is defined under. -/
def tagsDecl : ModuleDecl :=
  ⟨"tags", none, none, none, none, none, [], [],
    [⟨.flag, textFlag "id" (some "key")⟩, ⟨.field, tagField "tag" "alt"⟩,
      ⟨.field, tagField "label" "id"⟩]⟩

def tags : Module := textModule tagsDecl

theorem built_tags : tags.Built := built_textModule rfl

end Sample

theorem FlagSet.build_complete_tags :
    Sample.tags.Built ∧
      (∃ tag s, Sample.tags.own? .field ⟨none, "tag"⟩ = some tag ∧
        tag.buildFieldFlags.outcome = .ok s ∧
        s.Renders Sample.tags (some "key") Sample.tagFlags ∧
        Build.events (build tag.owner (some "key") Sample.tagFlags) =
          [.repeatedFlag "key" "tag", .builtFlags "tag" 3]) ∧
      ∃ label, Sample.tags.own? .field ⟨none, "label"⟩ = some label ∧
        label.buildFieldFlags.outcome =
          .error (.invalidJsonValueKeyFlag "id" "label" "tags") := by
  have htag : ∃ tag s, Sample.tags.own? .field ⟨none, "tag"⟩ = some tag ∧
      tag.home = Sample.tags ∧ tag.decl = Sample.tagField "tag" "alt" ∧
      tag.buildFieldFlags.outcome = .ok s ∧
      Build.events (build tag.owner (some "key") Sample.tagFlags) =
        [.repeatedFlag "key" "tag", .builtFlags "tag" 3] := ⟨_, _, rfl, rfl, rfl, rfl, rfl⟩
  have hlabel : ∃ label, Sample.tags.own? .field ⟨none, "label"⟩ = some label ∧
      label.owner = ⟨Sample.tags, .global .field ⟨none, "label"⟩, ⟨none, "label"⟩⟩ ∧
      label.decl = Sample.tagField "label" "id" := ⟨_, rfl, rfl, rfl⟩
  refine ⟨Sample.built_tags, ?_, ?_⟩
  · obtain ⟨tag, s, hown, hhome, hdecl, hs, hevents⟩ := htag
    have hbuilt : tag.owner.home.Built := (congrArg Module.Built hhome).mpr Sample.built_tags
    obtain ⟨-, -, hrenders, -, hfield⟩ := build_complete hbuilt (some "key") Sample.tagFlags
    obtain ⟨hflags, -⟩ := ((hfield tag hbuilt).1 s).mp hs
    rw [hdecl] at hflags
    have hr : s.Renders tag.home (some "key") Sample.tagFlags := (hrenders s hflags).1
    rw [hhome] at hr
    exact ⟨tag, s, hown, hs, hr, hevents⟩
  · obtain ⟨label, hown, howner, hdecl⟩ := hlabel
    have hhome : label.home = Sample.tags := congrArg Owner.home howner
    have hname : label.name = ⟨none, "label"⟩ := congrArg Owner.definition howner
    have hbuilt : label.owner.home.Built := (congrArg Module.Built hhome).mpr Sample.built_tags
    obtain ⟨-, -, -, -, hfield⟩ := build_complete hbuilt none []
    obtain ⟨-, herror, -⟩ := hfield label hbuilt
    rw [hname, hhome, hdecl, howner] at herror
    exact ⟨label, hown, (herror _).mpr rfl⟩

end InfoModel

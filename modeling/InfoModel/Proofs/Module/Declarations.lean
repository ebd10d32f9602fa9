import InfoModel.Proofs.Building.Module
import InfoModel.Proofs.Building.Siblings
import InfoModel.Proofs.Building.Written
import InfoModel.Proofs.Module.Validity
import Mathlib.Data.List.Induction

/-!
# Which declarations give a module

Definitions are taken up in the order of their declaration, up to the first that is not valid on its
own or has the name of an earlier one of its kind. A module has them kind by kind, each with its
place among those of its kind as its position and under its own name. Main statement:
`Module.build_declared`.
-/

namespace InfoModel

/-! ### Declarations -/

def Source.qualify (s : Source) (localName : String) : QName :=
  ⟨s.context.defaultSpace.filter fun t => !t.isEmpty, localName⟩

theorem Kind.name_of_prepare {r : Registry} {source : Source} {position : Option Nat} {k : Kind}
    {d : k.Decl} {definition : k.Definition} (h : k.prepare r source position d = .ok definition) :
    (k.head definition).name = source.qualify (k.headDecl d).name := by
  obtain ⟨hname, -⟩ := DefinitionHead.of_prepare (Kind.headDecl_of_prepare h)
  obtain ⟨hspace, hlocal⟩ := QName.of_make hname
  unfold Source.qualify
  rw [← hspace, ← hlocal]

namespace DefinitionDecl
variable {r : Registry} {source : Source} {before : List DefinitionDecl} {x : DefinitionDecl}

def label (x : DefinitionDecl) : Kind × String := (x.kind, (x.kind.headDecl x.definition).name)

/-- What keeps a definition from being taken up behind others: what is wrong with it on its own, or
else that an earlier one of its kind has its name. -/
def faultBehind? (r : Registry) (source : Source) (before : List DefinitionDecl)
    (x : DefinitionDecl) : Option ModelFault :=
  ((x.kind.fault? r x.definition).map ModelFault.basic).or
    (if x.label ∈ before.map label then
      some (.duplicateDefinition x.kind (source.qualify x.label.2).text source.shortName)
    else none)

theorem faultBehind?_eq_none_iff : x.faultBehind? r source before = none ↔
    x.kind.Valid r x.definition ∧ x.label ∉ before.map label := by
  unfold faultBehind?
  rw [Option.or_eq_none_iff, Option.map_eq_none_iff, Kind.fault?_eq_none_iff, ite_eq_right_iff]
  simp

theorem ofKind?_eq_some_iff {k : Kind} {d : k.Decl} : x.ofKind? k = some d ↔ x = ⟨k, d⟩ := by
  obtain ⟨kind, definition⟩ := x
  unfold ofKind?
  by_cases h : kind = k
  · subst h
    simp
  · simp [h]

/-- The definitions are valid on their own, and no two of one kind have the same name. -/
structure Registrable (r : Registry) (declared : List DefinitionDecl) : Prop where
  valid : ∀ x ∈ declared, x.kind.Valid r x.definition
  distinct : (declared.map label).Nodup

theorem registrable_concat_iff {declared : List DefinitionDecl} :
    Registrable r (declared ++ [x]) ↔
      Registrable r declared ∧ x.kind.Valid r x.definition ∧ x.label ∉ declared.map label := by
  constructor
  · rintro ⟨valid, distinct⟩
    rw [List.map_append, List.map_singleton, ← List.concat_eq_append, List.nodup_concat] at distinct
    refine ⟨⟨fun y hy => valid y (List.mem_append_left _ hy), distinct.2⟩, ?_, distinct.1⟩
    exact valid x (List.mem_append_right _ (List.mem_singleton_self x))
  · rintro ⟨⟨valid, distinct⟩, hx, hnew⟩
    refine ⟨?_, ?_⟩
    · intro y hy
      rcases List.mem_append.mp hy with hy | hy
      · exact valid y hy
      · rw [List.mem_singleton.mp hy]
        exact hx
    · rw [List.map_append, List.map_singleton, ← List.concat_eq_append, List.nodup_concat]
      exact ⟨hnew, distinct⟩

end DefinitionDecl

/-! ### Tables -/

structure Kind.Registers (r : Registry) (source : Source) (k : Kind) (earlier : List k.Decl)
    (d : k.Decl) (e : QName × k.Definition) : Prop where
  prepared : k.prepare r source (some earlier.length) d = .ok e.2
  name : e.1 = source.qualify (k.headDecl d).name

namespace Definitions
variable {r : Registry} {source : Source} {declared : List DefinitionDecl} {x : DefinitionDecl}
  {ds ds' : Definitions}

def Registers (r : Registry) (source : Source) (declared : List DefinitionDecl)
    (ds : Definitions) : Prop :=
  ∀ k, InTurn (k.Registers r source) (declared.filterMap (DefinitionDecl.ofKind? k))
    (ds.ofKind k).entries

theorem Registers.mem_keys_iff (h : ds.Registers r source declared) {k : Kind} {name : String} :
    source.qualify name ∈ (ds.ofKind k).keys ↔ (k, name) ∈ declared.map DefinitionDecl.label := by
  have hkeys : (ds.ofKind k).keys = (declared.filterMap (DefinitionDecl.ofKind? k)).map
      fun d => source.qualify (k.headDecl d).name := (h k).map_eq fun _ _ _ he => he.name
  rw [hkeys, List.mem_map, List.mem_map]
  constructor
  · rintro ⟨d, hd, hname⟩
    obtain ⟨x, hx, hxd⟩ := List.mem_filterMap.mp hd
    rw [DefinitionDecl.ofKind?_eq_some_iff] at hxd
    refine ⟨x, hx, ?_⟩
    rw [hxd]
    exact congrArg _ (congrArg QName.localName hname)
  · rintro ⟨x, hx, hlabel⟩
    cases hlabel
    refine ⟨x.definition, List.mem_filterMap.mpr ⟨x, hx, ?_⟩, rfl⟩
    exact DefinitionDecl.ofKind?_eq_some_iff.mpr rfl

theorem Registers.declare (h : ds.Registers r source declared)
    (hd : ds.declare r source x = .ok ds') : ds'.Registers r source (declared ++ [x]) := by
  obtain ⟨definition, hp, hn, rfl⟩ := declare_eq_ok_iff.mp hd
  -- the new entry stands last in the table of its kind, and the other tables stay as they are
  intro k
  rw [List.filterMap_append]
  by_cases hk : x.kind = k
  · subst hk
    have hx : [x].filterMap (DefinitionDecl.ofKind? x.kind) = [x.definition] := by
      rw [List.filterMap_cons, DefinitionDecl.ofKind?_eq_some_iff.mpr rfl]
      rfl
    have hsize : (ds.ofKind x.kind).size =
        (declared.filterMap (DefinitionDecl.ofKind? x.kind)).length := (h x.kind).length_eq
    rw [ofKind_put_self, NamedMap.entries_insert_of_not_mem hn, hx]
    rw [hsize] at hp
    exact (h x.kind).concat ⟨hp, Kind.name_of_prepare hp⟩
  · have hx : [x].filterMap (DefinitionDecl.ofKind? k) = [] := by
      rw [List.filterMap_cons]
      unfold DefinitionDecl.ofKind?
      rw [dif_neg hk]
      rfl
    rw [ofKind_put_of_ne (Ne.symm hk), hx, List.append_nil]
    exact h k

theorem Registers.faultOf?_declare (h : ds.Registers r source declared) (x : DefinitionDecl) :
    faultOf? (ds.declare r source x) = x.faultBehind? r source declared := by
  unfold DefinitionDecl.faultBehind? Definitions.declare
  rw [← Kind.faultOf?_prepare r source (some (ds.ofKind x.kind).size), ← faultOf?_orBasic]
  refine faultOf?_bind_of fun definition hp => ?_
  have hname := Kind.name_of_prepare (orBasic_eq_ok_iff.mp hp)
  have htaken : (ds.ofKind x.kind).contains (x.kind.head definition).name = true ↔
      x.label ∈ declared.map DefinitionDecl.label := by
    rw [NamedMap.contains_iff, hname, h.mem_keys_iff]
    rfl
  rw [hname] at htaken
  dsimp only
  rw [hname]
  by_cases hx : x.label ∈ declared.map DefinitionDecl.label
  · rw [if_pos (htaken.mpr hx), if_pos hx]
    rfl
  · rw [if_neg fun ht => hx (htaken.mp ht), if_neg hx]
    rfl

theorem registers_of_foldlM {ds : Definitions}
    (h : declared.foldlM (declare r source) .empty = .ok ds) : ds.Registers r source declared := by
  induction declared using List.reverseRecOn generalizing ds with
  | nil =>
    cases h
    intro k
    cases k <;> exact .nil
  | append_singleton declared x ih =>
    obtain ⟨ds', hds', hx⟩ := foldlM_concat_eq_ok_iff.mp h
    exact (ih hds').declare hx

theorem exists_foldlM_iff : (∃ ds, declared.foldlM (declare r source) .empty = .ok ds) ↔
    DefinitionDecl.Registrable r declared := by
  -- from the end, for the last definition meets the tables of all those before it
  induction declared using List.reverseRecOn with
  | nil =>
    have hnone : DefinitionDecl.Registrable r [] :=
      ⟨fun x hx => absurd hx List.not_mem_nil, List.nodup_nil⟩
    exact ⟨fun _ => hnone, fun _ => ⟨_, rfl⟩⟩
  | append_singleton declared x ih =>
    rw [DefinitionDecl.registrable_concat_iff, ← ih]
    constructor
    · rintro ⟨ds, h⟩
      obtain ⟨ds', hds', hx⟩ := foldlM_concat_eq_ok_iff.mp h
      have hfault := (registers_of_foldlM hds').faultOf?_declare x
      rw [faultOf?_eq_none_iff.mpr ⟨ds, hx⟩] at hfault
      exact ⟨⟨ds', hds'⟩, DefinitionDecl.faultBehind?_eq_none_iff.mp hfault.symm⟩
    · rintro ⟨⟨ds', hds'⟩, hx⟩
      have hfault := (registers_of_foldlM hds').faultOf?_declare x
      rw [DefinitionDecl.faultBehind?_eq_none_iff.mpr hx] at hfault
      obtain ⟨ds, hds⟩ := faultOf?_eq_none_iff.mp hfault
      exact ⟨ds, foldlM_concat_eq_ok_iff.mpr ⟨ds', hds', hds⟩⟩

/-- The first definition that cannot be taken up behind those before it decides the fault. -/
theorem foldlM_eq_error_iff_faultBehind {e : ModelFault} :
    declared.foldlM (declare r source) .empty = .error e ↔ ∃ before x after,
      declared = before ++ x :: after ∧ DefinitionDecl.Registrable r before ∧
        x.faultBehind? r source before = some e := by
  rw [foldlM_eq_error_iff]
  constructor
  · rintro ⟨before, x, after, ds, rfl, hds, hx⟩
    refine ⟨before, x, after, rfl, exists_foldlM_iff.mp ⟨ds, hds⟩, ?_⟩
    rw [← (registers_of_foldlM hds).faultOf?_declare, hx]
    rfl
  · rintro ⟨before, x, after, rfl, hbefore, hx⟩
    obtain ⟨ds, hds⟩ := exists_foldlM_iff.mpr hbefore
    refine ⟨before, x, after, ds, rfl, hds, ?_⟩
    rw [← (registers_of_foldlM hds).faultOf?_declare] at hx
    exact faultOf?_eq_some_iff.mp hx

end Definitions

/-! ### Modules -/

def AssemblyDecl.declaresRoot (d : AssemblyDecl) : Bool := d.rootName.isSome || d.rootIndex.isSome

theorem AssemblyDefinition.isRoot_of_prepare {source : Source} {position : Option Nat}
    {d : AssemblyDecl} {definition : AssemblyDefinition}
    (h : prepare source position d = .ok definition) : definition.isRoot = d.declaresRoot := by
  obtain ⟨head, -, h⟩ := Except.bind_eq_ok_iff.mp h
  obtain ⟨rootName, hr, h⟩ := Except.bind_eq_ok_iff.mp h
  cases h
  have hsome : rootName.isSome = d.rootName.isSome := by
    cases hd : d.rootName with
    | none =>
      rw [hd] at hr
      cases hr
      rfl
    | some name =>
      rw [hd] at hr
      obtain ⟨q, -, rfl⟩ := Except.map_eq_ok_iff.mp hr
      rfl
  unfold isRoot AssemblyDecl.declaresRoot
  rw [hsome]

structure Placed.Registers (m : Module) {k : Kind} (earlier : List k.Decl) (d : k.Decl)
    (p : Placed k) : Prop where
  prepared : k.prepare m.info.setup.registry m.info.source (some earlier.length) d =
    .ok p.definition
  decl : p.decl = d
  position : p.head.position = some earlier.length
  name : p.name = m.info.source.qualify (k.headDecl d).name

namespace Module
variable {setup : Setup} {id : Nat} {d : ModuleDecl} {location : Option Uri} {imports : List Module}
  {m : Module}

theorem registers_of_assemble (h : assemble setup id d location imports = .ok m) :
    m.info.definitions.Registers m.info.setup.registry m.info.source d.definitions := by
  obtain ⟨jsonBaseUri, -, h⟩ := Except.bind_eq_ok_iff.mp h
  obtain ⟨definitions, hd, h⟩ := Except.bind_eq_ok_iff.mp h
  cases h
  exact Definitions.registers_of_foldlM hd

theorem inTurn_own (h : assemble setup id d location imports = .ok m) (k : Kind) :
    InTurn (Placed.Registers m) (d.definitionsOf k) (m.own k) := by
  have hown : InTurn (Placed.Registers m) ((d.definitionsOf k).map fun decl => decl)
      ((m.definitions k).entries.map fun e => m.place k e.2) := by
    refine (registers_of_assemble h k).map fun earlier decl e he => ?_
    rw [List.map_id']
    exact ⟨he.prepared, Kind.decl_of_prepare he.prepared, Kind.position_of_prepare he.prepared,
      Kind.name_of_prepare he.prepared⟩
  rw [List.map_id'] at hown
  unfold own NamedMap.values
  rw [List.map_map]
  exact hown

theorem isSome_own?_iff_of_assemble (h : assemble setup id d location imports = .ok m) {k : Kind}
    {name : QName} : (m.own? k name).isSome ↔
      ∃ decl ∈ d.definitionsOf k, m.info.source.qualify (k.headDecl decl).name = name := by
  have hnames : (m.own k).map Placed.name =
      (d.definitionsOf k).map fun decl => m.info.source.qualify (k.headDecl decl).name :=
    (inTurn_own h k).map_eq fun _ _ _ hp => hp.name
  have hmem := List.mem_map (f := Placed.name) (l := m.own k) (b := name)
  rw [hnames, List.mem_map] at hmem
  rw [hmem, Option.isSome_iff_exists]
  exact exists_congr fun p => own?_eq_some_iff_of_inOrder (inOrder_of_assemble h)

theorem roots_of_assemble (h : assemble setup id d location imports = .ok m) :
    ((m.own .assembly).filter fun p => p.definition.isRoot).map Placed.decl =
      (d.definitionsOf .assembly).filter AssemblyDecl.declaresRoot := by
  have hall := inTurn_own h .assembly
  have hroots : (m.own .assembly).map (fun p => p.definition.isRoot) =
      (d.definitionsOf .assembly).map AssemblyDecl.declaresRoot :=
    hall.map_eq fun _ _ _ hp => AssemblyDefinition.isRoot_of_prepare hp.prepared
  rw [← decl_own_of_assemble h, List.map_map] at hroots
  rw [← decl_own_of_assemble h, List.filter_map]
  exact congrArg _ (List.filter_congr (List.map_inj_left.mp hroots))

theorem fst_build_of_lazy (hlazy : setup.settings.eagerResolution = false) (s : Store) :
    (Module.build setup d location imports s).1 =
      assemble setup s.nextId d location imports := by
  cases h : assemble setup s.nextId d location imports with
  | error e => rw [build_of_error h]
  | ok m => rw [build_of_ok h, settleBuilt_eq, hlazy]; rfl

theorem faultOf?_assemble (setup : Setup) (id : Nat) (d : ModuleDecl) (location : Option Uri)
    (imports : List Module) :
    faultOf? (assemble setup id d location imports) = (faultOf? (readBaseUri d.jsonBaseUri)).or
      (faultOf? (d.definitions.foldlM
        (Definitions.declare setup.registry (sourceOf d location)) .empty)) := by
  refine faultOf?_bind_of fun address _ => ?_
  exact faultOf?_bind_none fun _ => rfl

theorem assemble_of_readBaseUri {address : Option Uri}
    (hbase : readBaseUri d.jsonBaseUri = .ok address) :
    faultOf? (assemble setup id d location imports) = faultOf? (d.definitions.foldlM
      (Definitions.declare setup.registry (sourceOf d location)) .empty) := by
  rw [faultOf?_assemble, hbase]
  rfl

theorem exists_readBaseUri {address : Option String}
    (h : ∀ text, address = some text → ∃ uri, Uri.parse text = some uri) :
    ∃ uri, readBaseUri address = .ok uri := by
  cases address with
  | none => exact ⟨none, rfl⟩
  | some text =>
    obtain ⟨uri, huri⟩ := h text rfl
    refine ⟨some uri, ?_⟩
    unfold readBaseUri
    dsimp only
    rw [huri]

/-- Let modules be resolved when they are asked, and let the address for JSON documents be left out
or be an address. A module is built if its definitions are valid on their own and no two of one kind
have the same name; otherwise the first that is not valid, or else repeats a name of its kind,
decides the fault. What is built has the definitions of each kind in the order of declaration, each
at its place among them and under its name and no other; its roots are those declared as such. -/
theorem build_declared (hlazy : setup.settings.eagerResolution = false)
    (hbase : ∀ text, d.jsonBaseUri = some text → ∃ uri, Uri.parse text = some uri)
    (location : Option Uri) (imports : List Module) (s : Store) :
    ((∃ m, (Module.build setup d location imports s).1 = .ok m) ↔
      DefinitionDecl.Registrable setup.registry d.definitions) ∧
    (∀ e, (Module.build setup d location imports s).1 = .error e ↔ ∃ before x after,
      d.definitions = before ++ x :: after ∧
      DefinitionDecl.Registrable setup.registry before ∧
      x.faultBehind? setup.registry (sourceOf d location) before = some e) ∧
    ∀ m, (Module.build setup d location imports s).1 = .ok m →
      (∀ k, InTurn (Placed.Registers m) (d.definitionsOf k) (m.own k)) ∧
      (∀ k name p, m.own? k name = some p ↔ p ∈ m.own k ∧ p.name = name) ∧
      (∀ k name, (m.own? k name).isSome ↔
        ∃ decl ∈ d.definitionsOf k, m.info.source.qualify (k.headDecl decl).name = name) ∧
      ((m.own .assembly).filter fun p => p.definition.isRoot).map Placed.decl =
        (d.definitionsOf .assembly).filter AssemblyDecl.declaresRoot := by
  obtain ⟨address, haddress⟩ := exists_readBaseUri hbase
  have hfault : faultOf? (assemble setup s.nextId d location imports) =
      faultOf? (d.definitions.foldlM
        (Definitions.declare setup.registry (sourceOf d location)) .empty) :=
    assemble_of_readBaseUri haddress
  rw [fst_build_of_lazy hlazy]
  refine ⟨?_, ?_, ?_⟩
  · rw [← faultOf?_eq_none_iff, hfault, faultOf?_eq_none_iff]
    exact Definitions.exists_foldlM_iff
  · intro e
    rw [← faultOf?_eq_some_iff, hfault, faultOf?_eq_some_iff]
    exact Definitions.foldlM_eq_error_iff_faultBehind
  · intro m h
    exact ⟨inTurn_own h, fun k name p => own?_eq_some_iff_of_inOrder (inOrder_of_assemble h),
      fun k name => isSome_own?_iff_of_assemble h, roots_of_assemble h⟩

end Module

namespace Sample

def box (rootIndex : Option UInt32) : DefinitionDecl :=
  ⟨.assembly, (⟨headed "box", none, rootIndex, none, [], [], none⟩ : AssemblyDecl)⟩

def tray : DefinitionDecl :=
  ⟨.assembly, (⟨headed "tray", some "trays", none, none, [], [], none⟩ : AssemblyDecl)⟩

def weight (name : String) (datatype : Option String) : DefinitionDecl :=
  ⟨.flag, (⟨headed name, ⟨datatype, none⟩, none⟩ : FlagDecl)⟩

def stockDecl (definitions : List DefinitionDecl) : ModuleDecl :=
  ⟨"stock", none, none, some "urn:stock", some "urn:stock", none, [], [], definitions⟩

end Sample

namespace Module

theorem build_declared_stock :
    Sample.textSetup.settings.eagerResolution = false ∧
      (∃ uri, Uri.parse "urn:stock" = some uri) ∧
      (∃ m, (Module.build Sample.textSetup (Sample.stockDecl
          [Sample.box none, Sample.weight "box" none, Sample.tray]) none [] .empty).1 = .ok m ∧
        ((m.own .assembly).filter fun p => p.definition.isRoot).map (fun p => p.decl.rootName) =
          [some "trays"]) ∧
      (Module.build Sample.textSetup (Sample.stockDecl
          [Sample.weight "box" none, Sample.box (some 1), Sample.weight "box" (some "mass")])
          none [] .empty).1 = .error (.basic (.unknownDatatype "mass")) := by
  have hlazy : Sample.textSetup.settings.eagerResolution = false := rfl
  have huri : ∃ uri, Uri.parse "urn:stock" = some uri := ⟨_, rfl⟩
  have hbase : ∀ ds text, (Sample.stockDecl ds).jsonBaseUri = some text →
      ∃ uri, Uri.parse text = some uri := by
    intro ds text htext
    cases htext
    exact huri
  have hregistrable : ∀ declared : List DefinitionDecl,
      declared.findSome? (fun x => x.kind.fault? Sample.textSetup.registry x.definition) = none →
      (declared.map DefinitionDecl.label).Nodup →
      DefinitionDecl.Registrable Sample.textSetup.registry declared := by
    intro declared hfaults hlabels
    exact ⟨fun x hx => Kind.fault?_eq_none_iff.mp (List.findSome?_eq_none_iff.mp hfaults x hx),
      hlabels⟩
  refine ⟨hlazy, huri, ?_, ?_⟩
  · obtain ⟨hok, -, hbuilt⟩ := build_declared hlazy (hbase [Sample.box none,
      Sample.weight "box" none, Sample.tray]) none [] .empty
    obtain ⟨m, hm⟩ := hok.mpr (hregistrable _ rfl (by decide))
    obtain ⟨-, -, -, hroots⟩ := hbuilt m hm
    refine ⟨m, hm, ?_⟩
    have hnames := congrArg (List.map AssemblyDecl.rootName) hroots
    rw [List.map_map] at hnames
    exact hnames
  · obtain ⟨-, herror, -⟩ := build_declared hlazy (hbase [Sample.weight "box" none,
      Sample.box (some 1), Sample.weight "box" (some "mass")]) none [] .empty
    exact (herror _).mpr ⟨[Sample.weight "box" none, Sample.box (some 1)], _, [], rfl,
      hregistrable _ rfl (by decide), rfl⟩

end Module

end InfoModel

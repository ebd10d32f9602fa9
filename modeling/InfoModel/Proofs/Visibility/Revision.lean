import InfoModel.Proofs.Visibility.Table

/-!
# Revised modules

A revision changes modules in a way that leaves their sources, their datatypes and the heads of
their definitions as they are. Names mean the same in revised modules, and the same is exported, up
to the revision. Main statements: `Module.exports_revise`, `Module.visible?_revise`.
-/

namespace InfoModel

/-- A change of modules. What a definition is declared as may change, but not how it is prepared; of
the alternatives of groups anything may change. -/
structure Revision where
  change : ModuleInfo → ModuleInfo
  definition : (k : Kind) → k.Definition → k.Definition
  decl : (k : Kind) → k.Decl → k.Decl
  alternatives : List AlternativeDecl → List AlternativeDecl
  source : ∀ i, (change i).source = i.source
  registry : ∀ i, (change i).setup.registry = i.setup.registry
  definitions : ∀ i (k : Kind),
    (change i).definitions.ofKind k = (i.definitions.ofKind k).mapValues (definition k)
  head : ∀ (k : Kind) d, k.head (definition k d) = k.head d
  fieldValue : ∀ d : FieldDefinition, (definition .field d).value = d.value
  flagValue : ∀ d : FlagDefinition, (definition .flag d).value = d.value
  prepare : ∀ r source position (k : Kind) d,
    k.prepare r source position (decl k d) = (k.prepare r source position d).map (definition k)

namespace Module

mutual

def revise (v : Revision) : Module → Module
  | ⟨info, imports⟩ => ⟨v.change info, reviseAll v imports⟩

def reviseAll (v : Revision) : List Module → List Module
  | [] => []
  | m :: ms => revise v m :: reviseAll v ms

end

variable (v : Revision)

theorem reviseAll_eq_map (ms : List Module) : reviseAll v ms = ms.map (revise v) := by
  induction ms with
  | nil => rfl
  | cons m ms ih =>
    rw [List.map_cons, ← ih]
    rfl

theorem info_revise (m : Module) : (m.revise v).info = v.change m.info := by
  cases m with
  | mk info imports => rfl

theorem imports_revise (m : Module) : (m.revise v).imports = m.imports.map (revise v) := by
  cases m with
  | mk info imports => exact reviseAll_eq_map v imports

theorem source_revise (m : Module) : (m.revise v).info.source = m.info.source := by
  rw [info_revise, v.source]

theorem shortName_revise (m : Module) : (m.revise v).shortName = m.shortName :=
  congrArg Source.shortName (source_revise v m)

theorem space_revise (m : Module) : (m.revise v).space = m.space :=
  congrArg (fun s : Source => s.context.defaultSpace) (source_revise v m)

theorem registry_revise (m : Module) :
    (m.revise v).info.setup.registry = m.info.setup.registry := by
  rw [info_revise, v.registry]

theorem definitions_revise (m : Module) (k : Kind) :
    (m.revise v).definitions k = (m.definitions k).mapValues (v.definition k) := by
  unfold definitions
  rw [info_revise, v.definitions]

theorem referenceName_revise (m : Module) (reference : String) :
    (m.revise v).referenceName reference = m.referenceName reference := by
  unfold referenceName
  rw [source_revise]

end Module

namespace Placed
variable {k : Kind}

def revise (v : Revision) (d : Placed k) : Placed k :=
  ⟨d.home.revise v, d.site, v.definition k d.definition⟩

theorem head_revise (v : Revision) (d : Placed k) : (d.revise v).head = d.head :=
  v.head k d.definition

theorem name_revise (v : Revision) (d : Placed k) : (d.revise v).name = d.name :=
  congrArg DefinitionHead.name (d.head_revise v)

end Placed

namespace Module
variable (v : Revision) (m : Module) (k : Kind)

theorem place_revise (d : k.Definition) :
    (m.revise v).place k (v.definition k d) = (m.place k d).revise v := by
  unfold place
  rw [v.head]
  rfl

theorem own_revise : (m.revise v).own k = (m.own k).map (Placed.revise v) := by
  unfold own
  rw [definitions_revise, NamedMap.values_mapValues, List.map_map, List.map_map]
  exact List.map_congr_left fun d _ => place_revise v m k d

theorem own?_revise (name : QName) :
    (m.revise v).own? k name = (m.own? k name).map (Placed.revise v) := by
  unfold own?
  rw [definitions_revise, NamedMap.get?_mapValues, Option.map_map, Option.map_map]
  exact congrFun (congrArg Option.map (funext fun d => place_revise v m k d)) _

theorem shared_revise : (m.revise v).shared k = (m.shared k).map (Placed.revise v) := by
  unfold shared
  rw [own_revise, List.filter_map]
  refine congrArg (List.map (Placed.revise v)) (List.filter_congr fun d _ => ?_)
  exact congrArg (fun head : DefinitionHead => decide (head.scope = .shared)) (d.head_revise v)

theorem mapValues_inherit {κ ν μ : Type} [DecidableEq κ] (f : ν → μ) (into table : NamedMap κ ν) :
    (inherit into table).mapValues f = inherit (into.mapValues f) (table.mapValues f) := by
  have hentries : (table.mapValues f).entries = table.entries.map fun e => (e.1, f e.2) := rfl
  unfold inherit
  rw [hentries]
  induction table.entries generalizing into with
  | nil => rfl
  | cons e es ih =>
    rw [List.foldl_cons, ih, List.map_cons, List.foldl_cons, NamedMap.contains_mapValues,
      ← NamedMap.mapValues_insert]
    by_cases hc : into.contains e.1 = true
    · rw [if_pos hc, if_pos hc]
    · rw [if_neg hc, if_neg hc]

theorem fst_publish_revise {k : Kind} (into : NamedMap QName (Placed k)) (ds : List (Placed k)) :
    (publish (into.mapValues (Placed.revise v)) (ds.map (Placed.revise v))).1 =
      (publish into ds).1.mapValues (Placed.revise v) := by
  induction ds generalizing into with
  | nil => rfl
  | cons d ds ih =>
    show (publish ((into.mapValues (Placed.revise v)).insert (d.revise v).name (d.revise v))
      (ds.map (Placed.revise v))).1 = _
    rw [Placed.name_revise, ← NamedMap.mapValues_insert]
    exact ih (into.insert d.name d)

theorem exportsOf_revise {ms : List Module}
    (h : ∀ i ∈ ms, exports k (i.revise v) = (exports k i).mapValues (Placed.revise v))
    (table : NamedMap QName (Placed k)) :
    exportsOf k (ms.map (revise v)) (table.mapValues (Placed.revise v)) =
      (exportsOf k ms table).mapValues (Placed.revise v) := by
  induction ms generalizing table with
  | nil => rfl
  | cons i is ih =>
    show exportsOf k (is.map (revise v))
      (inherit (table.mapValues (Placed.revise v)) (exports k (i.revise v))) = _
    rw [h i List.mem_cons_self, ← mapValues_inherit]
    exact ih (fun j hj => h j (List.mem_cons_of_mem i hj)) _

theorem exports_revise : exports k (m.revise v) = (exports k m).mapValues (Placed.revise v) := by
  induction m using induct with
  | step m ih =>
    have he := exportsOf_revise v k ih .empty
    rw [exports_eq, exports_eq, imports_revise, shared_revise, ← fst_publish_revise, ← he]
    rfl

theorem exported?_revise (name : QName) :
    exported? k name (m.revise v) = (exported? k name m).map (Placed.revise v) := by
  unfold exported?
  rw [exports_revise, NamedMap.get?_mapValues]

/-- A name means the same inside a revised module. -/
theorem visible?_revise (name : QName) :
    (m.revise v).visible? k name = (m.visible? k name).map (Placed.revise v) := by
  have hi : ((m.imports.map (revise v)).findSome? (exported? k name)) =
      (m.imports.findSome? (exported? k name)).map (Placed.revise v) := by
    induction m.imports with
    | nil => rfl
    | cons i is ih =>
      rw [List.map_cons, List.findSome?_cons, List.findSome?_cons, exported?_revise, ih]
      cases exported? k name i with
      | none => rfl
      | some d => rfl
  unfold visible?
  rw [own?_revise, imports_revise, hi]
  cases m.own? k name with
  | none => rfl
  | some d => rfl

end Module

end InfoModel

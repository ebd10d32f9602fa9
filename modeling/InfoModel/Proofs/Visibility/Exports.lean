import InfoModel.Proofs.Store.History
import Mathlib.Data.List.Find

/-!
# Lists of exported definitions

What a module exports follows from what its imports export and from what it shares itself. The list
is made once, with a warning for each definition of the module that takes the place of an imported
one. Main statement: `exports_recursive`.
-/

namespace InfoModel

namespace Module
variable {k : Kind} {m : Module}

def exportedList (k : Kind) (m : Module) : List (Placed k) := (exports k m).values

/-- The definitions of a kind that a module shares although one of its imports exports their name.
-/
def overriding (k : Kind) (m : Module) : List (Placed k) :=
  (m.shared k).filter fun d =>
    m.imports.any fun i => (exportedList k i).any fun e => e.name = d.name

theorem map_name_exportedList (k : Kind) (m : Module) :
    (exportedList k m).map Placed.name = (exports k m).keys := by
  unfold exportedList NamedMap.values NamedMap.keys
  rw [List.map_map]
  refine List.map_congr_left ?_
  intro e he
  exact (name_of_mem_exports k m e he).symm

theorem find?_exportedList (k : Kind) (m : Module) (name : QName) :
    (exportedList k m).find? (·.name = name) = exported? k name m := by
  unfold exported? exportedList NamedMap.values
  rw [NamedMap.get?_eq_find?, List.find?_map]
  congr 1
  refine List.find?_congr ?_
  intro e he
  rw [name_of_mem_exports k m e he]
  rfl

theorem mem_keys_exportsOf_iff {name : QName} :
    name ∈ (exportsOf k m.imports .empty).keys ↔
      ∃ i ∈ m.imports, ∃ e ∈ exportedList k i, e.name = name := by
  rw [keys_exportsOf NamedMap.nodup_keys_empty, List.mem_eraseDups, NamedMap.keys_empty,
    List.nil_append, List.mem_flatMap]
  refine exists_congr fun i => and_congr_right fun _ => ?_
  rw [← map_name_exportedList, List.mem_map]

theorem Built.shadowedOfKind_eq (h : m.Built) (k : Kind) :
    m.shadowedOfKind k =
      (overriding k m).map fun d => .shadowed k.text d.name.text m.shortName := by
  unfold shadowedOfKind overriding
  rw [snd_publish _ (h.nodup_sharedNames k)]
  congr 1
  refine List.filter_congr ?_
  intro d _
  rw [Bool.eq_iff_iff, decide_eq_true_iff, mem_keys_exportsOf_iff, List.any_eq_true]
  refine exists_congr fun i => and_congr_right fun _ => ?_
  rw [List.any_eq_true]
  simp only [decide_eq_true_iff]

theorem Built.shadowings_eq (h : m.Built) :
    m.shadowings =
      if m.info.setup.settings.warnOnShadowing then
        Kind.all.flatMap fun k => (overriding k m).map fun d =>
          .shadowed k.text d.name.text m.shortName
      else [] := by
  unfold shadowings
  rw [funext h.shadowedOfKind_eq]

/-- The list of exported definitions has the names that the imports export, in order, and then those
that the module shares, each once. A name means the definition that the module shares under it, or
else what the first import to export the name exports under it. To look up a name agrees with the
list. The list is made when it is first asked for, with one warning for each shared definition whose
name an import exports if the settings say so, and in no run is it made twice. -/
theorem exports_recursive (h : m.Built) (k : Kind) :
    (∀ s : Store, (m.exported k s).1 = .ok (exportedList k m)) ∧
    ((exportedList k m).map Placed.name).Nodup ∧
    (exportedList k m).map Placed.name =
      ((m.imports.flatMap fun i => (exportedList k i).map Placed.name) ++
        (m.shared k).map Placed.name).eraseDups ∧
    (∀ setup id d location imports, assemble setup id d location imports = .ok m →
      (m.own k).map Placed.decl = d.definitionsOf k) ∧
    (∀ name, (exportedList k m).find? (·.name = name) =
      ((m.shared k).find? (·.name = name)).or
        (m.imports.findSome? fun i => (exportedList k i).find? (·.name = name))) ∧
    (∀ (name : QName) (s : Store),
      (m.findExported k name s).1 = .ok ((exportedList k m).find? (·.name = name)) ∧
        (m.findExported k name s).2 = (m.exported k s).2) ∧
    (∀ s : Store, m.id ∈ s.published → (m.exported k s).2 = s) ∧
    (∀ s : Store, m.id ∉ s.published →
      ∃ before, s.Makes (m.exported k s).2 (before ++ [m]) ∧ ∀ b ∈ before, m.Below b) ∧
    m.shadowings =
      (if m.info.setup.settings.warnOnShadowing then
        Kind.all.flatMap fun k => (overriding k m).map fun d =>
          .shadowed k.text d.name.text m.shortName
      else []) ∧
    ∀ s t : Store, Store.Run s t →
      ∃ made, s.Makes t made ∧ (made.filter fun b => b.id = m.id).length ≤ 1 := by
  refine ⟨fun _ => rfl, ?_, ?_, ?_, ?_, ?_, ?_, ?_, h.shadowings_eq, ?_⟩
  · rw [map_name_exportedList]
    exact nodup_keys_exports k m
  · rw [map_name_exportedList, keys_exports]
    simp only [map_name_exportedList]
  · intro setup id d location imports hm
    exact decl_own_of_assemble hm k
  · intro name
    rw [find?_exportedList, h.exported?_eq]
    simp only [find?_exportedList]
  · intro name s
    refine ⟨?_, rfl⟩
    rw [find?_exportedList]
    rfl
  · intro s hs
    exact Store.consult_of_published hs
  · intro s hs
    exact Store.makes_consult_first h hs
  · intro s t hrun
    obtain ⟨made, hmade⟩ := hrun.leads
    refine ⟨made, hmade, ?_⟩
    -- the numbers of the modules in `made` are all different
    have hc : made.countP (fun b => b.id = m.id) = (made.map Module.id).count m.id := by
      rw [List.count, List.countP_map]
      refine List.countP_congr ?_
      intro b _
      simp
    rw [← List.countP_eq_length_filter, hc]
    exact List.nodup_iff_count_le_one.mp hmade.once m.id

theorem exports_catalog :
    Sample.catalog.Built ∧
      (exportedList .assembly Sample.catalog).map Placed.name =
        [⟨some "urn:parts", "part"⟩, ⟨some "urn:parts", "nut"⟩] ∧
      (∃ before, Store.empty.Makes (Sample.catalog.exported .assembly .empty).2
        (before ++ [Sample.catalog])) ∧
      Sample.catalog.shadowings = [.shadowed "assembly" "Q\x7burn:parts\x7dpart" "catalog"] := by
  obtain ⟨-, -, hnames, -, -, -, -, hmade, hshadowings, -⟩ :=
    exports_recursive Sample.built_catalog .assembly
  obtain ⟨before, hbefore, -⟩ := hmade .empty List.not_mem_nil
  refine ⟨Sample.built_catalog, ?_, ⟨before, hbefore⟩, ?_⟩
  · rw [hnames]
    decide
  · rw [hshadowings]
    decide

end Module

end InfoModel

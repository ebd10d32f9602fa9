import InfoModel.Proofs.Building.Outline
import InfoModel.Proofs.Query.Commute

/-!
# Building stops at definitions

When a part is built, no other part is built with it, and of the definitions that it refers to or
holds no more is read than their outlines show. So definitions may refer to themselves and to each
other, and a definition whose flags are not valid does not keep the models around it from being
built. Main statement: `Store.building_stops_at_definitions`.
-/

namespace InfoModel

namespace Store
variable {G H : Module → Prop} {s t : Store} {m n : Module} {a b : Aggregate}

theorem Hosts.fst_get (hg : s.Hosts G) (hs : Run .empty s) (hm : G m) (ha : m.Has a) :
    (a.part.get s).1 = a.part.build.outcome := by
  refine fst_demand ?_
  rw [ha.slot_home]
  exact hg.clear hs m hm

/-- Parts whose buildings compare give contents that compare, whatever was asked before. -/
theorem Hosts.map_fst_get_eq (hg : s.Hosts G) (hh : t.Hosts H) (hs : Run .empty s)
    (ht : Run .empty t) (hm : G m) (hn : H n) (ha : m.Has a) (hb : n.Has b) {f : a.Content → α}
    {g : b.Content → α} (h : a.part.build.outcome.map f = b.part.build.outcome.map g) :
    (a.part.get s).1.map f = (b.part.get t).1.map g := by
  rw [hg.fst_get hs hm ha, hh.fst_get ht hn hb, h]

/-- Let the modules of two graphs be held. To ask for a part settles nothing but the slot of this
part, and other parts have other slots. Modules that are built lazily of declarations and imports
with the same outlines have the same outline, or fail alike, and so their global definitions
correspond. Let two definitions that stand anywhere in modules of the graphs have the same outline.
Assemblies whose models are declared with the same outline have models with the same outline, or
models that fail alike; and so it is with the flags of assemblies and fields, if the names of the
flags with a special meaning in JSON are the same. Whatever else the declarations hold, what was
asked before, and which module is which, makes no difference. -/
theorem building_stops_at_definitions (hs : Run .empty s) (ht : Run .empty t) (hg : s.Hosts G)
    (hh : t.Hosts H) :
    (∀ (a : Aggregate) slot, slot ≠ a.part.slot → (a.part.get s).2.fate? slot = s.fate? slot) ∧
    (∀ m n a b, G m → G n → m.Has a → n.Has b → b ≠ a → b.part.slot ≠ a.part.slot) ∧
    (∀ setup (d e : ModuleDecl) location imports imports',
      setup.settings.eagerResolution = false → d.outline = e.outline →
      imports.map Module.outline = imports'.map Module.outline →
      (Module.build setup d location imports s).1.map Module.outline =
        (Module.build setup e location imports' t).1.map Module.outline) ∧
    (∀ m n : Module, m.outline = n.outline → ∀ k,
      (m.own k).map Placed.outline = (n.own k).map Placed.outline) ∧
    (∀ m n (d e : Placed .assembly), G m → H n → m.Reached (.definition .assembly d) →
      n.Reached (.definition .assembly e) → d.outline = e.outline →
      (d.decl.model.map ModelChildDecl.outline = e.decl.model.map ModelChildDecl.outline →
        (d.model.get s).1.map Model.outline = (e.model.get t).1.map Model.outline) ∧
      (d.decl.jsonKey = e.decl.jsonKey →
        d.decl.flags.map FlagChildDecl.outline = e.decl.flags.map FlagChildDecl.outline →
        (d.assemblyFlags.get s).1.map FlagSet.outline =
          (e.assemblyFlags.get t).1.map FlagSet.outline)) ∧
    ∀ m n (d e : Placed .field), G m → H n → m.Reached (.definition .field d) →
      n.Reached (.definition .field e) → d.outline = e.outline →
      d.decl.jsonKey = e.decl.jsonKey → d.decl.jsonValueKeyFlag = e.decl.jsonValueKeyFlag →
      d.decl.flags.map FlagChildDecl.outline = e.decl.flags.map FlagChildDecl.outline →
      (d.fieldFlags.get s).1.map FlagSet.outline = (e.fieldFlags.get t).1.map FlagSet.outline := by
  refine ⟨fun a slot hne => fate?_demand_of_ne (Ne.symm hne) s, ?_, ?_, ?_, ?_, ?_⟩
  · intro m n a b hm hn ha hb hne hslot
    exact hne (hg.apart n m b a hn hm hb ha hslot)
  · intro setup d e location imports imports' hlazy hde himports
    rw [Module.map_outline_build (hs.ahead ahead_empty) hlazy,
      Module.map_outline_build (ht.ahead ahead_empty) hlazy, hde, himports]
  · intro m n hmn k
    have hm : m.outline.own k = (m.own k).map Placed.outline := Module.own_revise outlining m k
    have hn : n.outline.own k = (n.own k).map Placed.outline := Module.own_revise outlining n k
    rw [← hm, ← hn, hmn]
  · intro m n d e hm hn hd he hde
    refine ⟨fun hmodel => ?_, fun hkey hflags => ?_⟩
    · have hda : m.Has (.model d) := ⟨_, .model, hd, rfl⟩
      have hea : n.Has (.model e) := ⟨_, .model, he, rfl⟩
      exact hg.map_fst_get_eq hh hs ht hm hn hda hea (Placed.outlines_model hde hmodel)
    · have hda : m.Has (.assemblyFlags d) := ⟨_, .flags, hd, rfl⟩
      have hea : n.Has (.assemblyFlags e) := ⟨_, .flags, he, rfl⟩
      exact hg.map_fst_get_eq hh hs ht hm hn hda hea (Placed.outlines_assemblyFlags hde hkey hflags)
  · intro m n d e hm hn hd he hde hkey hvalueKey hflags
    have hda : m.Has (.fieldFlags d) := ⟨_, .flags, hd, rfl⟩
    have hea : n.Has (.fieldFlags e) := ⟨_, .flags, he, rfl⟩
    exact hg.map_fst_get_eq hh hs ht hm hn hda hea
      (Placed.outlines_fieldFlags hde hkey hvalueKey hflags)

end Store

namespace Sample

def plainBoxesDecl : ModuleDecl :=
  { boxesDecl with
    definitions := [⟨.assembly, (⟨headed "box", none, none, none, [],
      [.named (keyed none), .named (keyed none)], none⟩ : AssemblyDecl)⟩] }

def plainBoxes : Module := moduleOf 0 plainBoxesDecl []

def plainBoxesStore : Store := (Module.build setup plainBoxesDecl none [] .empty).2

theorem run_plainBoxes : Store.Run .empty plainBoxesStore :=
  .single (.build (fun _ hi => absurd hi List.not_mem_nil) setup plainBoxesDecl none)

theorem hosts_plainBoxes : plainBoxesStore.Hosts fun n => n = plainBoxes ∨ False := by
  have hb : Module.build setup plainBoxesDecl none [] .empty = (.ok plainBoxes, plainBoxesStore) :=
    rfl
  exact (Store.hosts_nothing .empty).build Store.ahead_empty
    (fun _ hi => absurd hi List.not_mem_nil) hb

theorem hosts_boxes : boxesStore.Hosts fun n => n = boxes ∨ False := by
  have hb : Module.build setup boxesDecl none [] .empty = (.ok boxes, boxesStore) := rfl
  exact (Store.hosts_nothing .empty).build Store.ahead_empty
    (fun _ hi => absurd hi List.not_mem_nil) hb

end Sample

namespace Store

theorem building_stops_at_definitions_boxes :
    Run .empty Sample.boxesStore ∧ Run .empty Sample.plainBoxesStore ∧
      Sample.boxesStore.Hosts (fun n => n = Sample.boxes ∨ False) ∧
      Sample.plainBoxesStore.Hosts (fun n => n = Sample.plainBoxes ∨ False) ∧
      ∃ d ∈ Sample.boxes.own .assembly, ∃ e ∈ Sample.plainBoxes.own .assembly,
        d.outline = e.outline ∧
        (d.model.get Sample.boxesStore).1.map Model.outline =
          (e.model.get Sample.plainBoxesStore).1.map Model.outline := by
  obtain ⟨-, -, -, -, hassemblies, -⟩ := building_stops_at_definitions Sample.run_boxes
    Sample.run_plainBoxes Sample.hosts_boxes Sample.hosts_plainBoxes
  refine ⟨Sample.run_boxes, Sample.run_plainBoxes, Sample.hosts_boxes, Sample.hosts_plainBoxes,
    _, List.mem_cons_self, _, List.mem_cons_self, rfl, ?_⟩
  obtain ⟨hmodel, -⟩ := hassemblies Sample.boxes Sample.plainBoxes _ _ (.inl rfl) (.inl rfl)
    (.of_own List.mem_cons_self) (.of_own List.mem_cons_self) rfl
  exact hmodel rfl

end Store

end InfoModel

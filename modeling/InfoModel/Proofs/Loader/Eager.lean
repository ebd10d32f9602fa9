import InfoModel.Proofs.Building.Eager
import InfoModel.Proofs.Loader.Classification
import InfoModel.Proofs.Loader.Trace
import InfoModel.Proofs.Query.Relabelling
import InfoModel.Proofs.Resolution.Completeness

/-!
# Loading at once or on demand

Modules that are resolved where they are built can be loaded exactly if they can be loaded without
that and can all be resolved in the end. The modules are the same then, and so is what they answer.
Main statement: `Loader.load_eager_iff_lazy`.
-/

namespace InfoModel

namespace Module

def Resolvable (m : Module) : Prop :=
  ∀ b, m.Spans b → Store.firstFault (outcomes b.parts) = .ok ()

theorem Resolvable.of_import {m i : Module} (h : m.Resolvable) (hi : i ∈ m.imports) :
    i.Resolvable :=
  fun b hb => h b (hb.of_import hi)

theorem resolvable_relabel_iff (r : Relabelling) {m : Module} :
    (m.relabel r).Resolvable ↔ m.Resolvable := by
  constructor
  · intro h b hb
    rw [← b.outcomes_relabel r]
    exact h (b.relabel r) ((spans_relabel_iff r).mpr ⟨b, hb, rfl⟩)
  · intro h c hc
    obtain ⟨b, hb, rfl⟩ := (spans_relabel_iff r).mp hc
    rw [outcomes_relabel]
    exact h b hb

theorem resolvable_of_relabel_eq {r : Relabelling} {m n : Module}
    (h : m.relabel r = n.relabel r) (hm : m.Resolvable) : n.Resolvable := by
  rw [← resolvable_relabel_iff r, ← h, resolvable_relabel_iff]
  exact hm

theorem bare_unnumbered (m : Module) : m.unnumbered.bare = m.bare :=
  relabel_relabel (fun _ => rfl) m

end Module

namespace Loading
variable {setup : Setup} {join : Uri → String → Option Uri} {documents : Documents} {u root : Uri}
  {s t : Store} {m : Module} {l : Loader}

theorem Composed.resolvable (h : Composed join documents (Declares (setup.resolving true)) u m) :
    m.Resolvable := by
  induction h with
  | @intro u d m found hd hj hf hm ih =>
    -- the module was resolved when it was built, what is below it even before
    obtain ⟨ha, hr⟩ := Module.declared_eq_ok_iff.mp hm
    intro b hb
    rcases hb.cases_imports with rfl | ⟨i, hi, hib⟩
    · exact hr rfl
    · rw [Module.imports_of_assemble ha] at hi
      obtain ⟨e, he, rfl⟩ := List.mem_map.mp hi
      exact ih e he b hib

/-- Where everything can be resolved, the same is composed whether or not modules are resolved where
they are built. -/
theorem Composed.resolving {eager : Bool}
    (h : Composed join documents (Declares (setup.resolving eager)) u m) (hr : m.Resolvable)
    (eager' : Bool) :
    ∃ m', m'.bare = m.bare ∧
      Composed join documents (Declares (setup.resolving eager')) u m' := by
  induction h with
  | @intro u d m found hd hj hf hm ih =>
    obtain ⟨ha, -⟩ := Module.declared_eq_ok_iff.mp hm
    have himports := Module.imports_of_assemble ha
    -- the imports are composed anew, and the document declares the same from them
    have hbare : ∀ e ∈ found.map fun e => (e.1, e.2.bare), ∃ m', m'.bare = e.2 ∧
        Composed join documents (Declares (setup.resolving eager')) e.1 m' := by
      intro e' he'
      obtain ⟨e, he, rfl⟩ := List.mem_map.mp he'
      refine ih e he (hr.of_import ?_)
      rw [himports]
      exact List.mem_map_of_mem he
    obtain ⟨built, hl, hb, hbuilt⟩ := exists_found hbare
    have hlocated : d.imports.map (join u) = built.map fun e => some e.1 := by
      rw [hl, hj, List.map_map]
      rfl
    have hfound : (built.map (·.2)).map Module.bare = (found.map (·.2)).map Module.bare := by
      rw [hb, List.map_map, List.map_map]
      rfl
    obtain ⟨m', ha', hm'⟩ := Module.exists_assemble eager' hfound ha
    have hr' : m'.Resolvable := Module.resolvable_of_relabel_eq hm'.symm hr
    exact ⟨m', hm', .intro hd hlocated hbuilt
      (Module.declared_eq_ok_iff.mpr ⟨ha', fun _ => hr' m' (.self m')⟩)⟩

theorem composed_of_load (hs : s.Ahead)
    (h : Loader.loadWith join setup ⟨documents, .empty⟩ root s = (.ok m, l, t)) :
    Composed join documents (Declares setup) root m.unnumbered := by
  have ho : (Loader.loadWith join setup ⟨documents, .empty⟩ root s).1.map Module.unnumbered =
      foundAt setup join documents [] root := Loader.map_unnumbered_loadWith hs root
  rw [h] at ho
  exact foundAt_nil_eq_ok_iff.mp ho.symm

theorem exists_load (hs : s.Ahead) (h : Composed join documents (Declares setup) root m) :
    ∃ m' l t, Loader.loadWith join setup ⟨documents, .empty⟩ root s = (.ok m', l, t) ∧
      m'.unnumbered = m := by
  have ho : (Loader.loadWith join setup ⟨documents, .empty⟩ root s).1.map Module.unnumbered =
      .ok m := (Loader.map_unnumbered_loadWith hs root).trans (foundAt_nil_eq_ok_iff.mpr h)
  obtain ⟨m', hl, hm'⟩ := Except.map_eq_ok_iff.mp ho
  exact ⟨m', _, _, Prod.ext hl rfl, hm'⟩

theorem preserves_clear (setup : Setup) :
    Preserves Store.Ahead (fun s m => ∀ b, m.Spans b → s.Clear b.id)
      (fun s t => (s.Ahead → t.Ahead) ∧ ∀ n, s.Clear n → t.Clear n) setup where
  refl _ := ⟨id, fun _ => id⟩
  trans h₁ h₂ := ⟨h₂.1 ∘ h₁.1, fun n hn => h₂.2 n (h₁.2 n hn)⟩
  inv h := h.1
  good h hm b hb := h.2 b.id (hm b hb)
  build _ _ hb := ⟨fun h => Module.ahead_of_build h hb, fun _ h => Module.clear_of_build h hb⟩
  result hs himports hbuild b hb := by
    rcases hb.cases_imports with rfl | ⟨i, hi, hib⟩
    · exact Module.clear_built hs hbuild
    · rw [Module.imports_of_assemble (Module.assemble_of_build hbuild)] at hi
      exact Module.clear_of_build (himports i hi b hib) hbuild
  loaded name location s := by
    have hu := Store.undisturbed_note s [.loadedModule name location]
    exact ⟨fun h => h.of_undisturbed hu, hu.clear⟩

theorem clear_of_load (hs : s.Ahead)
    (h : Loader.loadWith join setup ⟨documents, .empty⟩ root s = (.ok m, l, t)) :
    ∀ b, m.Spans b → t.Clear b.id := by
  have hl : ∀ m, (Loader.loadWith join setup ⟨documents, .empty⟩ root s).1 = .ok m →
      ∀ b, m.Spans b →
        (Loader.loadWith join setup ⟨documents, .empty⟩ root s).2.2.Clear b.id :=
    ((preserves_clear setup).load hs (fun _ hm => absurd hm List.not_mem_nil) root).2
  rw [h] at hl
  exact hl m rfl

theorem resolvable_iff_of_load (hs : s.Ahead)
    (h : Loader.loadWith join setup ⟨documents, .empty⟩ root s = (.ok m, l, t)) :
    m.Resolvable ↔ ∀ b, m.Spans b → (b.resolveAll t).1 = .ok () := by
  refine forall₂_congr fun b hb => ?_
  rw [Store.fst_resolveAll (clear_of_load hs h b hb)]

end Loading

namespace Loader
open Loading

/-- A location can be loaded with modules that are resolved where they are built exactly if it can
be loaded without that and the module and all modules below it can then be resolved; whether they
can does not depend on the order in which they are. If both loads succeed they give the same
modules, numbers and settings aside, and whatever is asked of these modules, in any order, gives the
same. A single module that is resolved where it is built fails as it fails without that, or else as
its resolution fails. -/
theorem load_eager_iff_lazy {s s' : Store} (hs : s.Ahead) (hs' : s'.Ahead) (setup : Setup)
    (join : Uri → String → Option Uri) (documents : Documents) (root : Uri) :
    ((∃ m, (loadWith join (setup.resolving true) ⟨documents, .empty⟩ root s).1 = .ok m) ↔
      ∃ m l t, loadWith join (setup.resolving false) ⟨documents, .empty⟩ root s' = (.ok m, l, t) ∧
        ∀ b, m.Spans b → (b.resolveAll t).1 = .ok ()) ∧
    (∀ m l t, loadWith join (setup.resolving false) ⟨documents, .empty⟩ root s' = (.ok m, l, t) →
      ∀ ms : List Module, (∀ b ∈ ms, m.Spans b) →
        ((ms.forM Module.resolveAll t).1 = .ok () ↔ ∀ b ∈ ms, (b.resolveAll t).1 = .ok ())) ∧
    (∀ m l t m' l' t',
      loadWith join (setup.resolving true) ⟨documents, .empty⟩ root s = (.ok m, l, t) →
      loadWith join (setup.resolving false) ⟨documents, .empty⟩ root s' = (.ok m', l', t') →
        m.bare = m'.bare ∧ Store.AnswersAlike Module.baring m t m' t') ∧
    ∀ d location imports,
      (Module.build (setup.resolving true) d location imports s).1.map Module.bare =
        (Module.buildThenResolve setup d location imports s').1.map Module.bare := by
  refine ⟨⟨?_, ?_⟩, ?_, ?_, fun d location imports => Module.map_bare_build hs hs'⟩
  · rintro ⟨m, hm⟩
    have hload : loadWith join (setup.resolving true) ⟨documents, .empty⟩ root s = (.ok m, _, _) :=
      Prod.ext hm rfl
    have hc := composed_of_load hs hload
    obtain ⟨c, hcm, hc'⟩ := hc.resolving hc.resolvable false
    obtain ⟨m', l, t, hload', rfl⟩ := exists_load hs' hc'
    have hr : m'.unnumbered.Resolvable := Module.resolvable_of_relabel_eq hcm.symm hc.resolvable
    exact ⟨m', l, t, hload', (resolvable_iff_of_load hs' hload').mp
      ((Module.resolvable_relabel_iff _).mp hr)⟩
  · rintro ⟨m', l, t, hload', hall⟩
    have hr := (resolvable_iff_of_load hs' hload').mpr hall
    obtain ⟨c, -, hc⟩ := (composed_of_load hs' hload').resolving
      ((Module.resolvable_relabel_iff _).mpr hr) true
    obtain ⟨m, l, t, hload, -⟩ := exists_load hs hc
    exact ⟨m, congrArg Prod.fst hload⟩
  · intro m l t hload ms hms
    exact Store.forM_resolveAll_eq_ok_iff fun b hb => clear_of_load hs' hload b (hms b hb)
  · intro m l t m' l' t' hload hload'
    have hc := composed_of_load hs hload
    obtain ⟨c, hcm, hc'⟩ := hc.resolving hc.resolvable false
    have hcu : c = m'.unnumbered := hc'.unique (composed_of_load hs' hload')
    have hbare : m.bare = m'.bare := by
      rw [← m.bare_unnumbered, ← hcm, hcu, m'.bare_unnumbered]
    exact ⟨hbare, Store.answersAlike _ hbare (clear_of_load hs hload) (clear_of_load hs' hload')⟩

end Loader

namespace Sample

def boxesUri : Uri := ⟨"file", some ⟨none, "", none⟩, "/boxes.json".toList, none, none⟩

def boxesOnly : Documents := NamedMap.empty.insert boxesUri boxesDecl

theorem load_boxes : ∃ m l t, Loader.loadWith Uri.join (setup.resolving false) ⟨boxesOnly, .empty⟩
    boxesUri .empty = (.ok m, l, t) ∧
      ∃ d, m.Has (.assemblyFlags d) ∧
        (d.assemblyFlags.get t).1 =
          .error (.invalidJsonKey "missing" "Q\x7burn:parts\x7dpart" "boxes") := by
  have hd : NamedMap.get? boxesOnly boxesUri = some boxesDecl := by
    unfold boxesOnly
    rw [NamedMap.get?_insert, if_pos rfl]
  have hi : boxesDecl.imports = [] := rfl
  unfold Loader.loadWith
  rw [Loading.loadAt_document (NamedMap.get?_empty _) List.not_mem_nil hd, hi,
    Loading.loadImports_nil]
  exact ⟨_, _, _, rfl, _,
    ⟨_, .flags, ⟨.assembly, _, List.mem_cons_self, .single (.inr List.mem_cons_self)⟩, rfl⟩, rfl⟩

end Sample

namespace Loader

theorem load_eager_iff_lazy_boxes :
    Store.empty.Ahead ∧
      ¬ ∃ m, (loadWith Uri.join (Sample.setup.resolving true) ⟨Sample.boxesOnly, .empty⟩
        Sample.boxesUri .empty).1 = .ok m := by
  obtain ⟨hiff, -, -, -⟩ := load_eager_iff_lazy Store.ahead_empty Store.ahead_empty Sample.setup
    Uri.join Sample.boxesOnly Sample.boxesUri
  refine ⟨Store.ahead_empty, fun heager => ?_⟩
  obtain ⟨m, l, t, hload, hall⟩ := hiff.mp heager
  obtain ⟨m', l', t', hload', d, hd, he⟩ := Sample.load_boxes
  cases hload.symm.trans hload'
  have hclear := Loading.clear_of_load Store.ahead_empty hload m (.self m)
  obtain ⟨c, hc⟩ := (Module.resolveAll_eq_ok_iff hclear).mp (hall m (.self m)) _ hd
  exact absurd (he.symm.trans hc) (by simp)

end Loader

end InfoModel

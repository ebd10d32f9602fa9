import InfoModel.Proofs.Loader.Agreement
import InfoModel.Proofs.Loader.Refusal

/-!
# Which locations can be loaded

A loader that built nothing yet loads a location exactly if the documents below it are all there,
none of them imports itself through others, and each can be built from the modules built for its
imports. Else what it reports can be found in the documents. Main statement:
`Loader.load_classifies`.
-/

namespace InfoModel

namespace Loading

section
variable (setup : Setup) (join : Uri → String → Option Uri) (documents : Documents)

def Builds (d : ModuleDecl) (u : Uri) (imports : List Module) (m : Module) : Prop :=
  ∃ s t : Store, s.Ahead ∧ Module.build setup d (some u) imports s = (.ok m, t)

/-- A module built for a location from modules that were built for the imports of its document. -/
def BuiltAt : Uri → Module → Prop := Composed join documents (Builds setup)

/-- All documents below a location are there, no import leads back, and each document can be built
from the modules that were built for its imports. -/
structure Loadable (root : Uri) : Prop where
  present : documents.contains root = true
  located : ∀ u d, Reaches join documents root u → documents.get? u = some d →
    ∀ href ∈ d.imports, ∃ v, join u href = some v ∧ documents.contains v = true
  acyclic : AcyclicFrom join documents root
  builds : ∀ u d (found : List (Uri × Module)), Reaches join documents root u →
    documents.get? u = some d → d.imports.map (join u) = found.map (fun e => some e.1) →
    (∀ e ∈ found, BuiltAt setup join documents e.1 e.2) →
    ∀ s : Store, s.Ahead →
      ∃ m, (Module.build setup d (some u) (found.map (·.2)) s).1 = .ok m

end

variable {setup : Setup} {join : Uri → String → Option Uri} {documents : Documents} {root u : Uri}

theorem declares_of_builds {d : ModuleDecl} {imports : List Module} {m : Module}
    (h : Builds setup d u imports m) :
    Declares setup d u (imports.map Module.unnumbered) m.unnumbered := by
  obtain ⟨s, t, hs, hb⟩ := h
  exact (Module.map_unnumbered_of_build hs hb).symm

theorem composed_of_builtAt {m : Module} (h : BuiltAt setup join documents u m) :
    Composed join documents (Declares setup) u m.unnumbered := by
  induction h with
  | @intro u d m found hd hj hf hm ih =>
    have hj' : d.imports.map (join u) =
        (found.map fun e => (e.1, e.2.unnumbered)).map fun e => some e.1 := by
      rw [hj, List.map_map]
      rfl
    refine Composed.intro hd hj' ?_ ?_
    · intro e he
      obtain ⟨e', he', rfl⟩ := List.mem_map.mp he
      exact ih e' he'
    · have hmap := declares_of_builds hm
      rw [List.map_map] at hmap ⊢
      exact hmap

theorem exists_found {view : Module → Module} {P : Uri → Module → Prop}
    {found : List (Uri × Module)} (h : ∀ e ∈ found, ∃ m, view m = e.2 ∧ P e.1 m) :
    ∃ built : List (Uri × Module), (built.map fun e => some e.1) = found.map (fun e => some e.1) ∧
      (built.map (·.2)).map view = found.map (·.2) ∧ ∀ e ∈ built, P e.1 e.2 := by
  induction found with
  | nil => exact ⟨[], rfl, rfl, fun e he => absurd he List.not_mem_nil⟩
  | cons e found ih =>
    obtain ⟨m, hm, hp⟩ := h e List.mem_cons_self
    obtain ⟨built, hl, hn, hb⟩ := ih fun e' he' => h e' (List.mem_cons_of_mem e he')
    refine ⟨(e.1, m) :: built, ?_, ?_, ?_⟩
    · rw [List.map_cons, List.map_cons, hl]
    · rw [List.map_cons, List.map_cons, List.map_cons, hn, hm]
    · intro e' he'
      rcases List.mem_cons.mp he' with rfl | he'
      · exact hp
      · exact hb e' he'

theorem exists_build {d : ModuleDecl} {imports : List Module} {m : Module}
    (h : Declares setup d u (imports.map Module.unnumbered) m) {s : Store} (hs : s.Ahead) :
    ∃ m' t, Module.build setup d (some u) imports s = (.ok m', t) ∧ m'.unnumbered = m := by
  have ho : (Module.build setup d (some u) imports s).1.map Module.unnumbered =
      Module.declared setup 0 d (some u) (imports.map Module.unnumbered) :=
    Module.map_unnumbered_build hs
  rw [h] at ho
  obtain ⟨m', hb, hm'⟩ := Except.map_eq_ok_iff.mp ho
  exact ⟨m', _, Prod.ext hb rfl, hm'⟩

theorem exists_builtAt {m : Module} (h : Composed join documents (Declares setup) u m) :
    ∃ m', m'.unnumbered = m ∧ BuiltAt setup join documents u m' := by
  induction h with
  | @intro u d m found hd hj hf hm ih =>
    obtain ⟨built, hl, hn, hb⟩ := exists_found ih
    have hdecl : Declares setup d u ((built.map (·.2)).map Module.unnumbered) m := hn.symm ▸ hm
    obtain ⟨m', t, hbuild, hm'⟩ := exists_build hdecl Store.ahead_empty
    exact ⟨m', hm', .intro hd (hj.trans hl.symm) hb ⟨.empty, t, Store.ahead_empty, hbuild⟩⟩

theorem map_unnumbered_eq {found built : List (Uri × Module)}
    (hl : (built.map fun e => some e.1) = found.map fun e => some e.1)
    (hf : ∀ e ∈ found, Composed join documents (Declares setup) e.1 e.2)
    (hb : ∀ e ∈ built, Composed join documents (Declares setup) e.1 e.2.unnumbered) :
    (built.map (·.2)).map Module.unnumbered = found.map (·.2) := by
  induction found generalizing built with
  | nil =>
    cases built with
    | nil => rfl
    | cons b built => exact absurd hl (by simp)
  | cons e found ih =>
    cases built with
    | nil => exact absurd hl (by simp)
    | cons b built =>
      obtain ⟨hhead, htail⟩ := List.cons_eq_cons.mp hl
      have hu : b.1 = e.1 := Option.some.inj hhead
      have hbe := hb b List.mem_cons_self
      rw [hu] at hbe
      have hrest := ih htail (fun e' he' => hf e' (List.mem_cons_of_mem e he'))
        fun b' hb' => hb b' (List.mem_cons_of_mem b hb')
      rw [List.map_cons, List.map_cons, List.map_cons, hrest,
        hbe.unique (hf e List.mem_cons_self)]

theorem loadable_of_composed {m : Module} (h : Composed join documents (Declares setup) root m) :
    Loadable setup join documents root := by
  refine ⟨h.contains, ?_, h.acyclic, ?_⟩
  · intro u d hr hd href hh
    obtain ⟨m', hm'⟩ := h.of_reaches hr
    obtain ⟨hd', hj, hf, -⟩ := hm'
    rw [hd] at hd'
    cases hd'
    have hmem := hj ▸ List.mem_map_of_mem (f := join u) hh
    obtain ⟨e, he, hje⟩ := List.mem_map.mp hmem
    exact ⟨e.1, hje.symm, (hf e he).contains⟩
  · intro u d built hr hd hj hbuilt s hs
    obtain ⟨m', hm'⟩ := h.of_reaches hr
    obtain ⟨hd', hj', hf, hm'⟩ := hm'
    rw [hd] at hd'
    cases hd'
    have heq := map_unnumbered_eq (hj.symm.trans hj') hf
      fun b hb => composed_of_builtAt (hbuilt b hb)
    obtain ⟨m, t, hb, -⟩ := exists_build (heq.symm ▸ hm') hs
    exact ⟨m, congrArg Prod.fst hb⟩

theorem transGen_of_cycle {first : Uri} {others : List Uri} {R : Uri → Uri → Prop}
    (h : (first :: others ++ [first]).IsChain R) : Relation.TransGen R first first := by
  have hlast : ∀ (w : Uri) (ws : List Uri), (w :: ws ++ [first]).IsChain R →
      Relation.TransGen R w first := by
    intro w ws
    induction ws generalizing w with
    | nil => exact fun h => Relation.TransGen.single (List.isChain_pair.mp h)
    | cons v vs ih =>
      intro h
      obtain ⟨hwv, h⟩ := List.isChain_cons_cons.mp h
      exact Relation.TransGen.head hwv (ih v h)
  exact hlast first others h

theorem Loadable.not_refused (h : Loadable setup join documents root) {e : ModelFault} :
    ¬ Refused setup join documents root e := by
  intro hr
  cases hr with
  | cycle hc =>
    obtain ⟨first, others, rfl, -, hreach⟩ := hc.closed
    exact h.acyclic first hreach (transGen_of_cycle hc.imports)
  | absent hd =>
    have hp := h.present
    rw [NamedMap.contains_eq_isSome, hd] at hp
    exact absurd hp (by simp)
  | invalid hr hd hh hj =>
    obtain ⟨v, hv, -⟩ := h.located _ _ hr hd _ hh
    rw [hj] at hv
    exact absurd hv (by simp)
  | missing hr hd hh hj ht =>
    obtain ⟨v, hv, hc⟩ := h.located _ _ hr hd _ hh
    rw [hj] at hv
    cases hv
    rw [NamedMap.contains_eq_isSome, ht] at hc
    exact absurd hc (by simp)
  | @building u d found e hr hp he =>
    obtain ⟨built, hl, hn, hb⟩ := exists_found fun e he => exists_builtAt (hp.composed e he)
    obtain ⟨m, hm⟩ := h.builds _ _ built hr hp.document (hp.located.trans hl.symm) hb
      .empty Store.ahead_empty
    have ho : (Module.build setup d (some u) (built.map (·.2)) .empty).1.map Module.unnumbered =
        Module.declared setup 0 d (some u) ((built.map (·.2)).map Module.unnumbered) :=
      Module.map_unnumbered_build Store.ahead_empty
    rw [hn, he, hm] at ho
    exact absurd ho (by simp [Except.map])

end Loading

namespace Loader
open Loading
variable {setup : Setup} {join : Uri → String → Option Uri} {documents : Documents}

theorem map_unnumbered_loadWith {s : Store} (hs : s.Ahead) (root : Uri) :
    (loadWith join setup ⟨documents, .empty⟩ root s).1.map Module.unnumbered =
      foundAt setup join documents [] root :=
  (loadWith_agrees (l := ⟨documents, .empty⟩) (Loading.Sound.empty hs) root).1

theorem refused_of_loadWith {s : Store} (hs : s.Ahead) {root : Uri} {e : ModelFault}
    (h : (loadWith join setup ⟨documents, .empty⟩ root s).1 = .error e) :
    Refused setup join documents root e := by
  have ho : (loadWith join setup ⟨documents, .empty⟩ root s).1.map Module.unnumbered =
      foundAt setup join documents [] root := map_unnumbered_loadWith hs root
  rw [h] at ho
  exact refused_of_foundAt ho.symm

/-- A location is loaded exactly if all documents below it are there, no import leads back, and each
document can be built from the modules built for its imports. A cycle that is reported is one in the
documents, and an import that is reported missing stands in a document below the location, which has
the reported name, and leads to where no document is. -/
theorem load_classifies {s : Store} (hs : s.Ahead) (setup : Setup)
    (join : Uri → String → Option Uri) (documents : Documents) (root : Uri) :
    ((∃ m, (loadWith join setup ⟨documents, .empty⟩ root s).1 = .ok m) ↔
      Loadable setup join documents root) ∧
    (∀ locations, (loadWith join setup ⟨documents, .empty⟩ root s).1 =
        .error (.importCycle locations) →
      ∃ chain, locations = chain.map Uri.text ∧ Cycle join documents root chain) ∧
    ∀ href owner, (loadWith join setup ⟨documents, .empty⟩ root s).1 =
        .error (.missingImport href owner) →
      (href = root.text ∧ owner = loaderName ∧ documents.get? root = none) ∨
      ∃ u d target, Reaches join documents root u ∧ documents.get? u = some d ∧
        d.shortName = owner ∧ href ∈ d.imports ∧ join u href = some target ∧
        documents.get? target = none := by
  refine ⟨⟨?_, ?_⟩, ?_, ?_⟩
  · rintro ⟨m, hm⟩
    have ho : (loadWith join setup ⟨documents, .empty⟩ root s).1.map Module.unnumbered =
        foundAt setup join documents [] root := map_unnumbered_loadWith hs root
    rw [hm] at ho
    exact loadable_of_composed (foundAt_nil_eq_ok_iff.mp ho.symm)
  · intro hl
    cases h : (loadWith join setup ⟨documents, .empty⟩ root s).1 with
    | ok m => exact ⟨m, rfl⟩
    | error e => exact absurd (refused_of_loadWith hs h) hl.not_refused
  · intro locations h
    cases refused_of_loadWith hs h with
    | @cycle chain hc => exact ⟨chain, rfl, hc⟩
    | building _ _ he => exact absurd (Module.fault_of_declared he) id
  · intro href owner h
    cases refused_of_loadWith hs h with
    | absent hd => exact .inl ⟨rfl, rfl, hd⟩
    | @missing u target d href hr hd hh hj ht =>
      exact .inr ⟨u, d, target, hr, hd, rfl, hh, hj, ht⟩
    | building _ _ he => exact absurd (Module.fault_of_declared he) id

end Loader

namespace Sample

def catalogUri : Uri := ⟨"file", some ⟨none, "", none⟩, "/catalog.json".toList, none, none⟩

def ring : Documents := NamedMap.empty.insert catalogUri catalogDecl

def toCatalog (_ : Uri) (_ : String) : Option Uri := some catalogUri

end Sample

namespace Loader
open Loading

theorem load_classifies_ring :
    Store.empty.Ahead ∧
      ∃ chain, [Sample.catalogUri.text, Sample.catalogUri.text] = chain.map Uri.text ∧
        Cycle Sample.toCatalog Sample.ring Sample.catalogUri chain := by
  have hd : NamedMap.get? Sample.ring Sample.catalogUri = some Sample.catalogDecl := by
    unfold Sample.ring
    rw [NamedMap.get?_insert, if_pos rfl]
  have hn : Sample.catalogUri ∉ ([] : List Uri) := List.not_mem_nil
  have ha : Available Sample.ring ⟨.empty, .empty⟩ Sample.catalogUri := by
    refine .inl ?_
    rw [NamedMap.contains_eq_isSome, hd]
    rfl
  have hl : (loadWith Sample.toCatalog Sample.setup ⟨Sample.ring, .empty⟩ Sample.catalogUri
      .empty).1 = .error (.importCycle [Sample.catalogUri.text, Sample.catalogUri.text]) := by
    unfold loadWith
    rw [loadAt_document (NamedMap.get?_empty _) hn hd]
    have hi : Sample.catalogDecl.imports = ["library.json"] := rfl
    have hc : Sample.catalogUri ∈ [] ++ [Sample.catalogUri] := List.mem_cons_self
    rw [hi, loadImports_cons rfl ha, loadAt_cycle (NamedMap.get?_empty _) hc]
    rfl
  obtain ⟨-, hcycle, -⟩ := load_classifies Store.ahead_empty Sample.setup Sample.toCatalog
    Sample.ring Sample.catalogUri
  exact ⟨Store.ahead_empty, hcycle _ hl⟩

end Loader

end InfoModel

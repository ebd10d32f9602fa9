import InfoModel.Proofs.Loader.Cache
import InfoModel.Proofs.Query.Commute

/-!
# What a load adds

A load, whether it succeeds or fails, puts modules with new numbers behind those that a loader
keeps, and it settles no part of any module that was there before. Main statements:
`Store.fate?_build`, `Loader.exists_new_of_load`.
-/

namespace InfoModel

namespace Store
variable {s t : Store}

theorem askLaw_fate? (slot : Slot) :
    AskLaw (fun m => m.id ≠ slot.home) fun s t => t.fate? slot = s.fate? slot where
  trans h₁ h₂ := h₂.trans h₁
  quiet h := h.records.fate?_eq slot
  demand hm ha hp s := by
    refine fate?_demand_of_ne (fun hslot => hm ?_) s
    rw [← ha.slot_home, ← hp.slot, hslot]

theorem fate?_build {setup : Setup} {d : ModuleDecl} {location : Option Uri}
    {imports : List Module} {outcome : Except ModelFault Module}
    (hb : Module.build setup d location imports s = (outcome, t)) {slot : Slot}
    (hslot : slot.home < s.nextId) : t.fate? slot = s.fate? slot := by
  cases ha : Module.assemble setup s.nextId d location imports with
  | error e =>
    rw [Module.build_of_error ha] at hb
    cases hb
    rfl
  | ok m =>
    have hid : m.id ≠ slot.home := by
      rw [Module.id_of_assemble ha]
      exact Nat.ne_of_gt hslot
    rw [Module.build_of_ok ha, Module.settleBuilt_eq] at hb
    have hr := (askLaw_fate? slot).resolveAll hid (s.numbered.note [m.builtEvent])
    split at hb
    · split at hb
      · rename_i hresolved
        rw [hresolved] at hr
        cases hb
        exact hr
      · rename_i hresolved
        rw [hresolved] at hr
        cases hb
        exact hr
    · cases hb
      rfl

/-- From `s` to `t` numbers were given out and nothing became of the parts of modules below `n`. -/
structure Spares (n : Nat) (s t : Store) : Prop where
  numbers : s.nextId ≤ t.nextId
  fates : ∀ slot : Slot, slot.home < n → t.fate? slot = s.fate? slot

end Store

namespace Loading

/-- A module that was there, or one with a new number. -/
structure Joins (n : Nat) (Old : Module → Prop) (s : Store) (m : Module) : Prop where
  known : s.Knows m
  number : Old m ∨ n ≤ m.id

theorem preserves_spares (setup : Setup) (n : Nat) (Old : Module → Prop) :
    Preserves (fun s => n ≤ s.nextId) (Joins n Old) (Store.Spares n) setup where
  refl s := ⟨Nat.le_refl _, fun _ _ => rfl⟩
  trans h₁ h₂ := ⟨Nat.le_trans h₁.numbers h₂.numbers,
    fun slot hslot => (h₂.fates slot hslot).trans (h₁.fates slot hslot)⟩
  inv h hs := Nat.le_trans hs h.numbers
  good h hm := ⟨hm.known.mono h.numbers, hm.number⟩
  build hs himports hb :=
    ⟨Store.runLaw_numbers.of_build (fun i hi => (himports i hi).known) hb,
      fun _ hslot => Store.fate?_build hb (Nat.lt_of_lt_of_le hslot hs)⟩
  result hs himports hb := by
    refine ⟨Store.Knows.of_build (fun i hi => (himports i hi).known) hb, .inr ?_⟩
    rw [Module.id_of_assemble (Module.assemble_of_build hb)]
    exact hs
  loaded _ _ _ := ⟨Nat.le_refl _, fun _ _ => rfl⟩

variable {setup : Setup} {join : Uri → String → Option Uri} {Found : Uri → ModuleDecl → Prop}
  {s : LoadState} {m i : Module}

theorem Coherent.exists_get? (h : Coherent setup join Found s) (hm : m ∈ s.modules.values) :
    ∃ u, s.modules.get? u = some m := by
  obtain ⟨e, he, rfl⟩ := List.mem_map.mp hm
  exact ⟨e.1, NamedMap.get?_of_mem h.keys he⟩

theorem Coherent.mem_of_import (h : Coherent setup join Found s) (hm : m ∈ s.modules.values)
    (hi : i ∈ m.imports) : i ∈ s.modules.values := by
  obtain ⟨u, hu⟩ := h.exists_get? hm
  obtain ⟨d, -, -, found, -, himports, hk⟩ := h.origin u m hu
  rw [himports] at hi
  obtain ⟨e, he, rfl⟩ := List.mem_map.mp hi
  exact List.mem_map_of_mem (NamedMap.mem_of_get? (hk e he))

theorem Coherent.eq_of_id (h : Coherent setup join Found s) {m n : Module}
    (hm : m ∈ s.modules.values) (hn : n ∈ s.modules.values) (hid : m.id = n.id) : m = n :=
  List.inj_on_of_nodup_map h.numbers hm hn hid

theorem Coherent.later {store : Store} (h : Coherent setup join Found s)
    (hs : s.store.nextId ≤ store.nextId) : Coherent setup join Found ⟨s.modules, store⟩ :=
  ⟨h.known.mono fun _ hm => hm.mono hs, h.keys, h.numbers, h.origin⟩

end Loading

namespace Loader
open Loading

variable {setup : Setup} {join : Uri → String → Option Uri} {l : Loader} {s : Store}
  {location : Uri}

theorem spares_loadWith (hl : ∀ m ∈ l.modules.values, s.Knows m) :
    s.Spares s.nextId (l.loadWith join setup location s).2.2 :=
  ((preserves_spares setup s.nextId (· ∈ l.modules.values)).load (Nat.le_refl _)
    (fun m hm => ⟨hl m hm, .inl hm⟩) location).1

/-- A load adds modules with new numbers, and the module that it gives is kept. -/
theorem exists_new_of_load {Found : Uri → ModuleDecl → Prop}
    (hf : ∀ u d, l.documents.get? u = some d → Found u d)
    (h : Coherent setup join Found ⟨l.modules, s⟩) (location : Uri) :
    Coherent setup join Found ⟨(l.loadWith join setup location s).2.1.modules,
      (l.loadWith join setup location s).2.2⟩ ∧
    (∃ new, (l.loadWith join setup location s).2.1.modules.values = l.modules.values ++ new ∧
      ∀ m ∈ new, (l.loadWith join setup location s).2.2.Knows m ∧ s.nextId ≤ m.id) ∧
    ∀ m, (l.loadWith join setup location s).1 = .ok m →
      m ∈ (l.loadWith join setup location s).2.1.modules.values := by
  obtain ⟨hc, new, -, hnew, -, -⟩ := coherent_loadWith hf h location
  have hentries : (l.loadWith join setup location s).2.1.modules.entries =
      l.modules.entries ++ new := hnew
  have hvalues : (l.loadWith join setup location s).2.1.modules.values =
      l.modules.values ++ new.map (·.2) := by
    unfold NamedMap.values
    rw [hentries, List.map_append]
  refine ⟨hc, ⟨new.map (·.2), hvalues, fun m hm => ?_⟩, fun m hm => ?_⟩
  · have hjoins := (loading_rule (traces_cases
      (preserves_spares setup s.nextId (· ∈ l.modules.values)) join l.documents)).1 [] location
      ⟨l.modules, s⟩ (Nat.le_refl _) fun m hm => ⟨h.known m hm, .inl hm⟩
    have hin : m ∈ (l.loadWith join setup location s).2.1.modules.values := by
      rw [hvalues]
      exact List.mem_append_right _ hm
    have hm' := hjoins.2.1 m hin
    refine ⟨hm'.known, hm'.number.resolve_left fun hold => ?_⟩
    -- no number is there twice
    have hnodup := hc.numbers
    rw [show (loadState (l.loadWith join setup location s).2).modules.values = _ from hvalues,
      List.map_append, List.nodup_append] at hnodup
    exact hnodup.2.2 _ (List.mem_map_of_mem hold) _ (List.mem_map_of_mem hm) rfl
  · have hadds := @loadAt_adds setup join l.documents [] location ⟨l.modules, s⟩
    have hk := hadds.kept m hm
    exact List.mem_map_of_mem (NamedMap.mem_of_get? hk)

end Loader

end InfoModel

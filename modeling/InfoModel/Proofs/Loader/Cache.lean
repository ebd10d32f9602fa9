import InfoModel.Proofs.Loader.History
import InfoModel.Proofs.Store.History
import InfoModel.Proofs.Store.Journal

/-!
# What a loader keeps

Whatever is added to a loader and loaded from it, and however many of the loads fail half way, what
it keeps is in order: each module was put together from a document of its location, its imports are
kept at the locations that the document names, and no module that is kept is ever built again. Main
statement: `Loader.cache_coherent`.
-/

namespace InfoModel

namespace Loading

def loadedEvent (e : Uri × Module) : Event := .loadedModule e.2.shortName e.1.text

/-- What `t` keeps is what `s` kept and behind it what was built on the way, each noticed once. -/
def Extends (s t : LoadState) : Prop :=
  ∃ new log, t.modules.entries = s.modules.entries ++ new ∧
    t.store.journal = s.store.journal ++ log ∧ log.filter Event.isLoading = new.map loadedEvent

/-- Every module is kept under a location where a document was found; it was put together from that
document with modules that are kept as well. -/
structure Coherent (setup : Setup) (join : Uri → String → Option Uri)
    (Found : Uri → ModuleDecl → Prop) (s : LoadState) : Prop where
  known : Known s
  keys : s.modules.keys.Nodup
  numbers : (s.modules.values.map Module.id).Nodup
  origin : ∀ u m, s.modules.get? u = some m → ∃ d, Found u d ∧
    Module.assemble setup m.id d (some u) m.imports = .ok m ∧ Kept join s u d.imports m.imports

variable {setup : Setup} {join : Uri → String → Option Uri} {documents : Documents}
  {Found : Uri → ModuleDecl → Prop} {loading : List Uri} {u : Uri} {r s t : LoadState}

theorem Extends.of_notices (hm : t.modules = s.modules)
    (hn : Store.Notices (fun e => e.isLoading = false) s.store t.store) : Extends s t := by
  obtain ⟨log, hj, hl⟩ := hn.filter_eq_nil
  refine ⟨[], log, ?_, hj, hl⟩
  rw [hm, List.append_nil]

theorem Extends.refl (s : LoadState) : Extends s s := .of_notices rfl (Store.Notices.refl _)

theorem Extends.trans (h₁ : Extends r s) (h₂ : Extends s t) : Extends r t := by
  obtain ⟨new, log, he, hj, hl⟩ := h₁
  obtain ⟨new', log', he', hj', hl'⟩ := h₂
  refine ⟨new ++ new', log ++ log', ?_, ?_, ?_⟩
  · rw [he', he, List.append_assoc]
  · rw [hj', hj, List.append_assoc]
  · rw [List.filter_append, List.map_append, hl, hl']

theorem extends_kept {m : Module} {store : Store} (hu : s.modules.get? u = none)
    (hn : Store.Notices (fun e => e.isLoading = false) s.store store) :
    Extends s (kept u m s store) := by
  obtain ⟨log, hj, hl⟩ := hn.filter_eq_nil
  have hkey : u ∉ s.modules.keys := NamedMap.get?_eq_none_iff.mp hu
  refine ⟨[(u, m)], log ++ [.loadedModule m.shortName u.text], ?_, ?_, ?_⟩
  · exact NamedMap.entries_insert_of_not_mem hkey m
  · show store.journal ++ _ = _
    rw [hj, List.append_assoc]
  · rw [List.filter_append, hl]
    rfl

theorem Kept.mono {hrefs : List String} {ms : List Module} (h : Kept join s u hrefs ms)
    (hg : Grows loading s t) : Kept join t u hrefs ms := by
  obtain ⟨found, hj, hms, hk⟩ := h
  exact ⟨found, hj, hms, fun e he => hg.kept e.1 e.2 (hk e he)⟩

theorem Kept.knows {hrefs : List String} {ms : List Module} (h : Kept join s u hrefs ms)
    (hs : Known s) : ∀ i ∈ ms, s.store.Knows i := by
  obtain ⟨found, -, rfl, hk⟩ := h
  intro i hi
  obtain ⟨e, he, rfl⟩ := List.mem_map.mp hi
  exact hs.of_get? (hk e he)

theorem Coherent.empty (store : Store) : Coherent setup join Found ⟨.empty, store⟩ where
  known _ hm := absurd hm List.not_mem_nil
  keys := List.nodup_nil
  numbers := List.nodup_nil
  origin _ _ hm := absurd hm (by simp [NamedMap.get?_empty])

theorem Coherent.mono {Found' : Uri → ModuleDecl → Prop} (h : Coherent setup join Found s)
    (hf : ∀ u d, Found u d → Found' u d) : Coherent setup join Found' s := by
  refine ⟨h.known, h.keys, h.numbers, ?_⟩
  intro u m hm
  obtain ⟨d, hd, ha, hk⟩ := h.origin u m hm
  exact ⟨d, hf u d hd, ha, hk⟩

theorem Coherent.of_build {d : ModuleDecl} {imports : List Module} {store : Store}
    {outcome : Except ModelFault Module} (h : Coherent setup join Found s)
    (hk : Kept join s u d.imports imports)
    (hb : Module.build setup d (some u) imports s.store = (outcome, store)) :
    Coherent setup join Found { s with store := store } := by
  have hn := Store.runLaw_numbers.of_build (hk.knows h.known) hb
  exact ⟨h.known.mono fun _ hm => hm.mono hn, h.keys, h.numbers, h.origin⟩

theorem Coherent.kept {d : ModuleDecl} {imports : List Module} {store : Store} {m : Module}
    (h : Coherent setup join Found s) (hu : s.modules.get? u = none) (hd : Found u d)
    (hk : Kept join s u d.imports imports)
    (hb : Module.build setup d (some u) imports s.store = (.ok m, store)) :
    Coherent setup join Found (kept u m s store) := by
  have hkey : u ∉ s.modules.keys := NamedMap.get?_eq_none_iff.mp hu
  have himports := hk.knows h.known
  have ha := Module.assemble_of_build hb
  have hid : m.id = s.store.nextId := Module.id_of_assemble ha
  have hn := Store.runLaw_numbers.of_build himports hb
  have hg : Grows [] s (Loading.kept u m s store) := Grows.refl.of_kept hu List.not_mem_nil
  have hknown : store.Knows m := Store.Knows.of_build himports hb
  refine ⟨h.known.kept u (hknown.mono (Nat.le_refl _)) fun _ hm' => hm'.mono hn, ?_, ?_, ?_⟩
  · exact NamedMap.nodup_keys_insert h.keys u m
  · have hv : (Loading.kept u m s store).modules.values = s.modules.values ++ [m] := by
      show (s.modules.insert u m).values = _
      unfold NamedMap.values
      rw [NamedMap.entries_insert_of_not_mem hkey, List.map_append]
      rfl
    rw [hv, List.map_append, List.nodup_append]
    refine ⟨h.numbers, List.nodup_singleton _, ?_⟩
    intro n hn n' hn' hnn
    obtain ⟨m', hm', rfl⟩ := List.mem_map.mp hn
    have hlt := (h.known m' hm').number
    rw [List.map_singleton, List.mem_singleton] at hn'
    omega
  · intro v m' hv
    rw [get?_kept] at hv
    split at hv
    · rename_i hvu
      cases hv
      subst hvu
      refine ⟨d, hd, ?_, ?_⟩
      · rw [Module.imports_of_assemble ha, hid]
        exact ha
      · rw [Module.imports_of_assemble ha]
        exact hk.mono hg
    · obtain ⟨d', hd', ha', hk'⟩ := h.origin v m' hv
      exact ⟨d', hd', ha', hk'.mono hg⟩

theorem Coherent.id_lt {v : Uri} {m i : Module} (h : Coherent setup join Found s)
    (hm : s.modules.get? v = some m) (hi : i ∈ m.imports) : i.id < m.id :=
  (h.known.of_get? hm).built.id_lt_of_import hi

theorem cache_cases (hf : ∀ u d, documents.get? u = some d → Found u d) :
    Cases setup join documents
      (fun loading u s outcome t =>
        Adds loading s (fun m => t.modules.get? u = some m) outcome t ∧
          (Coherent setup join Found s → Coherent setup join Found t ∧ Extends s t))
      (fun loading u _ hrefs s outcome t =>
        Adds loading s (fun ms => Kept join t u hrefs ms) outcome t ∧
          (Coherent setup join Found s → Coherent setup join Found t ∧ Extends s t)) where
  cached hm := ⟨.of_ok Grows.refl hm, fun h => ⟨h, .refl _⟩⟩
  cycle _ _ := ⟨.of_error Grows.refl, fun h => ⟨h, .refl _⟩⟩
  missing _ _ _ := ⟨.of_error Grows.refl, fun h => ⟨h, .refl _⟩⟩
  importsFail _ _ _ hq := ⟨.of_error hq.1.grows.of_concat, hq.2⟩
  buildFails hm hu hd hq hb := by
    refine ⟨(growth_cases setup join documents).buildFails hm hu hd hq.1 hb, fun h => ?_⟩
    obtain ⟨ht, he⟩ := hq.2 h
    have hk := hq.1.kept _ rfl
    exact ⟨ht.of_build hk hb, he.trans (.of_notices rfl (Store.notices_build hb))⟩
  built hm hu hd hq hb := by
    refine ⟨(growth_cases setup join documents).built hm hu hd hq.1 hb, fun h => ?_⟩
    obtain ⟨ht, he⟩ := hq.2 h
    have hk := hq.1.kept _ rfl
    -- nothing was kept here while the imports were loaded
    have hn := hq.1.grows.here hm
    exact ⟨ht.kept hn (hf _ _ hd) hk hb, he.trans (extends_kept hn (Store.notices_build hb))⟩
  nil := ⟨.of_ok Grows.refl .nil, fun h => ⟨h, .refl _⟩⟩
  invalid _ := ⟨.of_error Grows.refl, fun h => ⟨h, .refl _⟩⟩
  unavailable _ _ := ⟨.of_error Grows.refl, fun h => ⟨h, .refl _⟩⟩
  headFails _ _ hp := ⟨.of_error hp.1.grows, hp.2⟩
  tailFails _ _ hp hq := by
    refine ⟨.of_error (hp.1.grows.trans hq.1.grows), fun h => ?_⟩
    obtain ⟨ht, he⟩ := hp.2 h
    obtain ⟨hr, he'⟩ := hq.2 ht
    exact ⟨hr, he.trans he'⟩
  cons hj _ hp hq := by
    refine ⟨hp.1.cons hq.1 hj, fun h => ?_⟩
    obtain ⟨ht, he⟩ := hp.2 h
    obtain ⟨hr, he'⟩ := hq.2 ht
    exact ⟨hr, he.trans he'⟩

end Loading

namespace Loader
open Loading

variable {setup : Setup} {join : Uri → String → Option Uri} {l : Loader} {s : Store} {u : Uri}
  {m : Module} {ops : List Op}

def loadState (state : Loader × Store) : LoadState := ⟨state.1.modules, state.2⟩

theorem coherent_loadWith {Found : Uri → ModuleDecl → Prop}
    (hf : ∀ u d, l.documents.get? u = some d → Found u d)
    (h : Coherent setup join Found (loadState (l, s))) (location : Uri) :
    Coherent setup join Found (loadState (l.loadWith join setup location s).2) ∧
      Extends (loadState (l, s)) (loadState (l.loadWith join setup location s).2) :=
  ((loading_rule (cache_cases hf)).1 [] location (loadState (l, s))).2 h

theorem after_concat (join : Uri → String → Option Uri) (setup : Setup) (ops : List Op) (op : Op)
    (state : Loader × Store) :
    after join setup (ops ++ [op]) state = next join setup (after join setup ops state) op := by
  unfold after
  rw [List.foldl_append]
  rfl

theorem get?_after (more : List Op) {state : Loader × Store}
    (h : state.1.modules.get? u = some m) :
    (after join setup more state).1.modules.get? u = some m := by
  induction more generalizing state with
  | nil => exact h
  | cons op more ih =>
    refine ih ?_
    cases op with
    | add location d => exact h
    | load location =>
      exact (loadAt_adds [] location ⟨state.1.modules, state.2⟩).grows.kept u m h

theorem loadWith_of_get? (h : l.modules.get? u = some m) :
    l.loadWith join setup u s = (.ok m, l, s) := by
  unfold loadWith
  rw [loadAt_cached (s := ⟨l.modules, s⟩) h]

/-- In the course of the history, begun with an empty loader, some load found the document `d` at
`u`. -/
def FoundDuring (join : Uri → String → Option Uri) (setup : Setup) (s : Store) (ops : List Op)
    (u : Uri) (d : ModuleDecl) : Prop :=
  ∃ earlier location later, ops = earlier ++ .load location :: later ∧
    (after join setup earlier (.empty, s)).1.documents.get? u = some d

def ImportsKept (l : Loader) (u v : Uri) : Prop :=
  ∃ m i, l.modules.get? u = some m ∧ l.modules.get? v = some i ∧ i ∈ m.imports

theorem FoundDuring.concat {d : ModuleDecl} (h : FoundDuring join setup s ops u d) (op : Op) :
    FoundDuring join setup s (ops ++ [op]) u d := by
  obtain ⟨earlier, location, later, rfl, hd⟩ := h
  exact ⟨earlier, location, later ++ [op], by simp, hd⟩

theorem coherent_after (join : Uri → String → Option Uri) (setup : Setup) (s : Store)
    (ops : List Op) :
    Coherent setup join (FoundDuring join setup s ops)
        (loadState (after join setup ops (.empty, s))) ∧
      Extends ⟨.empty, s⟩ (loadState (after join setup ops (.empty, s))) := by
  induction ops using List.reverseRecOn with
  | nil => exact ⟨.empty s, .refl _⟩
  | append_singleton ops op ih =>
    obtain ⟨hc, he⟩ := ih
    have hc' : Coherent setup join (FoundDuring join setup s (ops ++ [op]))
        (loadState (after join setup ops (.empty, s))) := hc.mono fun _ _ hd => hd.concat op
    rw [after_concat]
    cases op with
    | add location d => exact ⟨hc', he⟩
    | load location =>
      obtain ⟨hl, hx⟩ := coherent_loadWith (fun u d hd => ⟨ops, location, [], rfl, hd⟩) hc' location
      exact ⟨hl, he.trans hx⟩

theorem not_importsKept_self {Found : Uri → ModuleDecl → Prop}
    (h : Coherent setup join Found (loadState (l, s))) (u : Uri) :
    ¬ Relation.TransGen (ImportsKept l) u u := by
  -- along imports the numbers fall
  have hfall : ∀ v, Relation.TransGen (ImportsKept l) u v →
      ∃ m i, l.modules.get? u = some m ∧ l.modules.get? v = some i ∧ i.id < m.id := by
    intro v hv
    induction hv with
    | single hi =>
      obtain ⟨m, i, hm, hi, hmi⟩ := hi
      exact ⟨m, i, hm, hi, h.id_lt hm hmi⟩
    | tail _ hi ih =>
      obtain ⟨m, i, hm, hi', hlt⟩ := ih
      obtain ⟨i', j, hi, hj, hij⟩ := hi
      have hii : i' = i := Option.some.inj (hi.symm.trans hi')
      have hji : j.id < i.id := hii ▸ h.id_lt hi hij
      exact ⟨m, j, hm, hj, by omega⟩
  intro hu
  obtain ⟨m, i, hm, hi, hlt⟩ := hfall u hu
  have hmi : m = i := Option.some.inj (hm.symm.trans hi)
  rw [hmi] at hlt
  exact Nat.lt_irrefl _ hlt

/-- After any history of documents added, also in place of others, and of loads, also of such that
fail half way: a module is kept under its own location; it was put together from a document that a
load found there; its imports are, one for each import of that document and in that order, the
modules kept at the locations to which these lead, and no way along imports leads back. What is kept
at a location stays there in every later state, and to load it gives that module and changes neither
the loader nor the store, so that nothing is noticed. Modules kept at different locations are
different. The events about loading are those of the modules that are kept, each location once. -/
theorem cache_coherent (join : Uri → String → Option Uri) (setup : Setup) (s : Store)
    (ops : List Op) :
    (∀ u m, (after join setup ops (.empty, s)).1.modules.get? u = some m →
      m.info.source.location = some u ∧
      (∃ d, FoundDuring join setup s ops u d ∧
        Module.assemble setup m.id d (some u) m.imports = .ok m ∧
        ∃ found : List (Uri × Module), d.imports.map (join u) = found.map (fun e => some e.1) ∧
          m.imports = found.map (·.2) ∧
          ∀ e ∈ found, (after join setup ops (.empty, s)).1.modules.get? e.1 = some e.2) ∧
      (∀ more, (after join setup (ops ++ more) (.empty, s)).1.modules.get? u = some m) ∧
      (after join setup ops (.empty, s)).1.loadWith join setup u
          (after join setup ops (.empty, s)).2 =
        (.ok m, after join setup ops (.empty, s))) ∧
    (∀ u, ¬ Relation.TransGen (ImportsKept (after join setup ops (.empty, s)).1) u u) ∧
    (after join setup ops (.empty, s)).1.modules.keys.Nodup ∧
    ((after join setup ops (.empty, s)).1.modules.values.map Module.id).Nodup ∧
    (after join setup ops (.empty, s)).2.journal.filter Event.isLoading =
      s.journal.filter Event.isLoading ++
        (after join setup ops (.empty, s)).1.modules.entries.map loadedEvent := by
  obtain ⟨hc, new, log, hnew, hj, hl⟩ := coherent_after join setup s ops
  refine ⟨?_, not_importsKept_self hc, hc.keys, hc.numbers, ?_⟩
  · intro u m hm
    obtain ⟨d, hd, ha, hk⟩ := hc.origin u m hm
    refine ⟨?_, ⟨d, hd, ha, hk⟩, ?_, loadWith_of_get? hm⟩
    · obtain ⟨jsonBaseUri, -, ha⟩ := Except.bind_eq_ok_iff.mp ha
      obtain ⟨definitions, -, ha⟩ := Except.bind_eq_ok_iff.mp ha
      rw [← Except.ok.inj ha]
      rfl
    · intro more
      have happ : after join setup (ops ++ more) (.empty, s) =
          after join setup more (after join setup ops (.empty, s)) := List.foldl_append
      rw [happ]
      exact get?_after more hm
  · have hentries : (after join setup ops (.empty, s)).1.modules.entries = new := hnew
    have hjournal : (after join setup ops (.empty, s)).2.journal = s.journal ++ log := hj
    rw [hjournal, hentries, List.filter_append, hl]

end Loader

end InfoModel

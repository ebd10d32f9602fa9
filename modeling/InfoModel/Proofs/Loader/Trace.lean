import InfoModel.Proofs.Building.Module
import InfoModel.Proofs.Loader.Rule
import InfoModel.Proofs.Store.Numbers

/-!
# What holds along a load

A load builds modules one after the other, each from modules that were built or kept before. What
holds along each of these buildings and of every module built holds along the load and of every
module that it gives or keeps. Main statement: `Preserves.load`.
-/

namespace InfoModel

namespace Loading

def Held (Good : Store → Module → Prop) (s : LoadState) : Prop :=
  ∀ m ∈ s.modules.values, Good s.store m

variable {Inv : Store → Prop} {Good : Store → Module → Prop} {R : Store → Store → Prop}
  {setup : Setup} {s t : LoadState} {store : Store} {m : Module}

theorem Held.of_get? (h : Held Good s) {location : Uri} (hm : s.modules.get? location = some m) :
    Good s.store m :=
  h m (List.mem_map_of_mem (NamedMap.mem_of_get? hm))

/-- `R` holds along each building of a module in stores with the property `Inv`, and modules that
are built from good ones are good and remain so. -/
structure Preserves (Inv : Store → Prop) (Good : Store → Module → Prop) (R : Store → Store → Prop)
    (setup : Setup) : Prop where
  refl : ∀ s, R s s
  trans : ∀ {s t u}, R s t → R t u → R s u
  inv : ∀ {s t}, R s t → Inv s → Inv t
  good : ∀ {s t m}, R s t → Good s m → Good t m
  build : ∀ {s t : Store} {d : ModuleDecl} {location : Option Uri} {imports : List Module}
    {outcome : Except ModelFault Module}, Inv s → (∀ i ∈ imports, Good s i) →
    Module.build setup d location imports s = (outcome, t) → R s t
  result : ∀ {s t : Store} {d : ModuleDecl} {location : Option Uri} {imports : List Module}
    {m : Module}, Inv s → (∀ i ∈ imports, Good s i) →
    Module.build setup d location imports s = (.ok m, t) → Good t m
  loaded : ∀ (name location : String) (s : Store), R s (s.note [.loadedModule name location])

theorem Held.mono (h : Held Good s) (hg : ∀ m, Good s.store m → Good store m) :
    Held Good { s with store := store } :=
  fun m hm => hg m (h m hm)

theorem Held.kept (h : Held Good s) (location : Uri)
    (hm : Good (Loading.kept location m s store).store m)
    (hg : ∀ m', Good s.store m' → Good (Loading.kept location m s store).store m') :
    Held Good (Loading.kept location m s store) := by
  intro m' hm'
  obtain ⟨e, he, rfl⟩ := List.mem_map.mp hm'
  rcases NamedMap.mem_entries_insert he with rfl | he
  · exact hm
  · exact hg e.2 (h e.2 (List.mem_map_of_mem he))

/-- From a state where all that is kept is good, loading leads to such a state, on a way along which
`R` holds. -/
def Traces (Inv : Store → Prop) (Good : Store → Module → Prop) (R : Store → Store → Prop)
    (s t : LoadState) (found : Store → Prop) : Prop :=
  Inv s.store → Held Good s → R s.store t.store ∧ Held Good t ∧ found t.store

theorem Preserves.stay (h : Preserves Inv Good R setup) {found : Store → Prop}
    (hf : Held Good s → found s.store) : Traces Inv Good R s s found :=
  fun _ hs => ⟨h.refl _, hs, hf hs⟩

theorem Preserves.kept (h : Preserves Inv Good R setup) {location : Uri} {s : Store}
    (hs : R s store) : R s (Loading.kept location m t store).store :=
  h.trans hs (h.loaded _ _ _)

theorem Preserves.good_kept (h : Preserves Inv Good R setup) {location : Uri} {m' : Module}
    (hm : Good store m') : Good (Loading.kept location m t store).store m' :=
  h.good (h.loaded _ _ _) hm

theorem traces_cases (h : Preserves Inv Good R setup) (join : Uri → String → Option Uri)
    (documents : Documents) :
    Cases setup join documents
    (fun _ _ s outcome t => Traces Inv Good R s t fun store => ∀ m, outcome = .ok m → Good store m)
    (fun _ _ _ _ s outcome t =>
      Traces Inv Good R s t fun store => ∀ ms, outcome = .ok ms → ∀ m ∈ ms, Good store m) where
  cached hm := by
    refine h.stay fun hs m' hm' => ?_
    cases hm'
    exact hs.of_get? hm
  cycle _ _ := h.stay fun _ m hm => absurd hm (by simp)
  missing _ _ _ := h.stay fun _ m hm => absurd hm (by simp)
  importsFail _ _ _ hi hv hs := by
    obtain ⟨hl, ht, -⟩ := hi hv hs
    exact ⟨hl, ht, fun m hm => absurd hm (by simp)⟩
  buildFails _ _ _ hi hb hv hs := by
    obtain ⟨hl, ht, hg⟩ := hi hv hs
    have hbuild := h.build (h.inv hl hv) (hg _ rfl) hb
    exact ⟨h.trans hl hbuild, ht.mono fun m => h.good hbuild, fun m hm => absurd hm (by simp)⟩
  built _ _ _ hi hb hv hs := by
    obtain ⟨hl, ht, hg⟩ := hi hv hs
    have hbuild := h.build (h.inv hl hv) (hg _ rfl) hb
    have hm := h.result (h.inv hl hv) (hg _ rfl) hb
    refine ⟨h.trans hl (h.kept hbuild), ht.kept _ (h.good_kept hm) fun m => h.good (h.kept hbuild),
      ?_⟩
    intro m' hm'
    cases hm'
    exact h.good_kept hm
  nil := h.stay fun _ ms hms m hm => by
    cases hms
    exact absurd hm List.not_mem_nil
  invalid _ := h.stay fun _ ms hms => absurd hms (by simp)
  unavailable _ _ := h.stay fun _ ms hms => absurd hms (by simp)
  headFails _ _ hp hv hs := by
    obtain ⟨hl, ht, -⟩ := hp hv hs
    exact ⟨hl, ht, fun ms hms => absurd hms (by simp)⟩
  tailFails _ _ hp hq hv hs := by
    obtain ⟨hl, ht, -⟩ := hp hv hs
    obtain ⟨hl', ht', -⟩ := hq (h.inv hl hv) ht
    exact ⟨h.trans hl hl', ht', fun ms hms => absurd hms (by simp)⟩
  cons _ _ hp hq hv hs := by
    obtain ⟨hl, ht, hm⟩ := hp hv hs
    obtain ⟨hl', ht', hms⟩ := hq (h.inv hl hv) ht
    refine ⟨h.trans hl hl', ht', ?_⟩
    intro ms hcons m' hm'
    cases hcons
    rcases List.mem_cons.mp hm' with rfl | hm'
    · exact h.good hl' (hm _ rfl)
    · exact hms _ rfl m' hm'

/-- A load preserves what the buildings in it preserve. -/
theorem Preserves.load (h : Preserves Inv Good R setup) {join : Uri → String → Option Uri}
    {l : Loader} {s : Store} (hs : Inv s) (hl : ∀ m ∈ l.modules.values, Good s m) (location : Uri) :
    R s (l.loadWith join setup location s).2.2 ∧
      ∀ m, (l.loadWith join setup location s).1 = .ok m →
        Good (l.loadWith join setup location s).2.2 m := by
  have hall := (loading_rule (traces_cases h join l.documents)).1 [] location ⟨l.modules, s⟩ hs hl
  exact ⟨hall.1, hall.2.2⟩

end Loading

end InfoModel

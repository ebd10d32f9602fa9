import InfoModel.Proofs.Building.Declared
import InfoModel.Proofs.Loader.Rule

/-!
# What a load leaves behind

A load only adds to what is kept, and adds nothing for the locations that are being loaded. After a
load that failed everything that it could build on the way is kept, so that the same load comes to
the same fault again without building anything. Main statements: `loadAt_adds`,
`loadAt_fails_again`.
-/

namespace InfoModel

namespace Loading

/-- What was kept is kept, and nothing is kept for locations that are being loaded unless it was
before. -/
structure Grows (loading : List Uri) (s t : LoadState) : Prop where
  kept : ∀ u m, s.modules.get? u = some m → t.modules.get? u = some m
  waiting : ∀ u ∈ loading, s.modules.get? u = none → t.modules.get? u = none

variable {setup : Setup} {join : Uri → String → Option Uri} {documents : Documents}
  {loading : List Uri} {u : Uri} {s t : LoadState}

theorem Grows.refl : Grows loading s s := ⟨fun _ _ h => h, fun _ _ h => h⟩

theorem Grows.trans {r : LoadState} (h₁ : Grows loading r s) (h₂ : Grows loading s t) :
    Grows loading r t :=
  ⟨fun u m h => h₂.kept u m (h₁.kept u m h), fun u hu h => h₂.waiting u hu (h₁.waiting u hu h)⟩

theorem Grows.of_store {store : Store} (h : Grows loading s t) :
    Grows loading s { t with store := store } := ⟨h.kept, h.waiting⟩

theorem Grows.of_concat (h : Grows (loading ++ [u]) s t) : Grows loading s t :=
  ⟨h.kept, fun v hv => h.waiting v (List.mem_append_left _ hv)⟩

theorem Grows.here (h : Grows (loading ++ [u]) s t) (hu : s.modules.get? u = none) :
    t.modules.get? u = none :=
  h.waiting u (List.mem_append_right _ List.mem_cons_self) hu

theorem get?_kept (u v : Uri) (m : Module) (s : LoadState) (store : Store) :
    (Loading.kept u m s store).modules.get? v = if v = u then some m else s.modules.get? v :=
  NamedMap.get?_insert s.modules u v m

theorem Grows.of_kept {m : Module} {store : Store} (h : Grows (loading ++ [u]) s t)
    (hm : s.modules.get? u = none) (hu : u ∉ loading) :
    Grows loading s (Loading.kept u m t store) := by
  refine ⟨?_, ?_⟩
  · intro v m' hv
    have hne : v ≠ u := by
      intro hvu
      rw [hvu, hm] at hv
      exact absurd hv (by simp)
    rw [get?_kept, if_neg hne]
    exact h.kept v m' hv
  · intro v hv hn
    have hne : v ≠ u := fun hvu => hu (hvu ▸ hv)
    rw [get?_kept, if_neg hne]
    exact h.waiting v (List.mem_append_left _ hv) hn

/-- Modules are kept for the imports of the document at `location`, in order. -/
def Kept (join : Uri → String → Option Uri) (t : LoadState) (location : Uri) (hrefs : List String)
    (ms : List Module) : Prop :=
  ∃ found : List (Uri × Module), hrefs.map (join location) = found.map (fun e => some e.1) ∧
    ms = found.map (·.2) ∧ ∀ e ∈ found, t.modules.get? e.1 = some e.2

theorem Kept.nil : Kept join t u [] [] := ⟨[], rfl, rfl, fun _ he => absurd he List.not_mem_nil⟩

theorem Kept.cons {href : String} {hrefs : List String} {target : Uri} {m : Module}
    {ms : List Module} (h : Kept join t u hrefs ms) (hj : join u href = some target)
    (hm : t.modules.get? target = some m) : Kept join t u (href :: hrefs) (m :: ms) := by
  obtain ⟨found, hmap, rfl, hk⟩ := h
  refine ⟨(target, m) :: found, ?_, rfl, ?_⟩
  · rw [List.map_cons, List.map_cons, hj, hmap]
  · intro e he
    rcases List.mem_cons.mp he with rfl | he
    · exact hm
    · exact hk e he

/-- A load only adds to what is kept; what it found, if it succeeded, is kept as `found` says. -/
structure Adds (loading : List Uri) (s : LoadState) (found : α → Prop)
    (outcome : Except ModelFault α) (t : LoadState) : Prop where
  grows : Grows loading s t
  kept : ∀ a, outcome = .ok a → found a

theorem Adds.of_error {found : α → Prop} {e : ModelFault} (h : Grows loading s t) :
    Adds loading s found (.error e) t := ⟨h, fun _ ho => absurd ho (by simp)⟩

theorem Adds.of_ok {found : α → Prop} {a : α} (h : Grows loading s t) (ha : found a) :
    Adds loading s found (.ok a) t := by
  refine ⟨h, ?_⟩
  intro b hb
  cases hb
  exact ha

theorem Adds.cons {r : LoadState} {href : String} {hrefs : List String} {target : Uri} {m : Module}
    {ms : List Module} (hp : Adds loading s (fun m => t.modules.get? target = some m) (.ok m) t)
    (hq : Adds loading t (fun ms => Kept join r u hrefs ms) (.ok ms) r)
    (hj : join u href = some target) :
    Adds loading s (fun ms => Kept join r u (href :: hrefs) ms) (.ok (m :: ms)) r := by
  have hm := hq.grows.kept _ _ (hp.kept _ rfl)
  exact .of_ok (hp.grows.trans hq.grows) ((hq.kept _ rfl).cons hj hm)

theorem growth_cases (setup : Setup) (join : Uri → String → Option Uri) (documents : Documents) :
    Cases setup join documents
      (fun loading u s outcome t => Adds loading s (fun m => t.modules.get? u = some m) outcome t)
      (fun loading u _ hrefs s outcome t =>
        Adds loading s (fun ms => Kept join t u hrefs ms) outcome t) where
  cached hm := .of_ok Grows.refl hm
  cycle _ _ := .of_error Grows.refl
  missing _ _ _ := .of_error Grows.refl
  importsFail _ _ _ hq := .of_error hq.grows.of_concat
  buildFails _ _ _ hq _ := .of_error hq.grows.of_concat.of_store
  built hm hu _ hq _ := by
    refine .of_ok (hq.grows.of_kept hm hu) ?_
    rw [get?_kept, if_pos rfl]
  nil := .of_ok Grows.refl .nil
  invalid _ := .of_error Grows.refl
  unavailable _ _ := .of_error Grows.refl
  headFails _ _ hp := .of_error hp.grows
  tailFails _ _ hp hq := .of_error (hp.grows.trans hq.grows)
  cons hj _ hp hq := hp.cons hq hj

theorem loadAt_adds (loading : List Uri) (u : Uri) (s : LoadState) :
    Adds loading s
      (fun m => (loadAt setup join documents loading u s).2.modules.get? u = some m)
      (loadAt setup join documents loading u s).1 (loadAt setup join documents loading u s).2 :=
  (loading_rule (growth_cases setup join documents)).1 loading u s

theorem loadAt_kept {store : Store} {m : Module} (h : t.modules.get? u = some m) :
    loadAt setup join documents loading u ⟨t.modules, store⟩ = (.ok m, ⟨t.modules, store⟩) :=
  loadAt_cached h

theorem loadAt_again {d : ModuleDecl} (h : Grows (loading ++ [u]) s t)
    (hm : s.modules.get? u = none) (store : Store) (hu : u ∉ loading)
    (hd : documents.get? u = some d) :
    loadAt setup join documents loading u ⟨t.modules, store⟩ =
      match loadImports setup join documents (loading ++ [u]) u d.shortName d.imports
          ⟨t.modules, store⟩ with
      | (.error e, r) => (.error e, r)
      | (.ok imports, r) =>
        match Module.build setup d (some u) imports r.store with
        | (.error e, store) => (.error e, { r with store := store })
        | (.ok m, store) => (.ok m, Loading.kept u m r store) :=
  loadAt_document (h.here hm) hu hd

theorem loadImports_kept {store : Store} {owner : String} {hrefs : List String} {ms : List Module}
    (h : Kept join t u hrefs ms) :
    loadImports setup join documents loading u owner hrefs ⟨t.modules, store⟩ =
      (.ok ms, ⟨t.modules, store⟩) := by
  obtain ⟨found, hmap, rfl, hk⟩ := h
  induction hrefs generalizing found with
  | nil =>
    cases found with
    | nil => exact loadImports_nil _
    | cons e found => exact absurd hmap (by simp)
  | cons href hrefs ih =>
    cases found with
    | nil => exact absurd hmap (by simp)
    | cons e found =>
      obtain ⟨hhead, htail⟩ := List.cons_eq_cons.mp hmap
      have he := hk e List.mem_cons_self
      have ha : Available documents ⟨t.modules, store⟩ e.1 := by
        refine .inr ?_
        rw [NamedMap.contains_eq_isSome, he]
        rfl
      have hrest := ih found htail fun e' he' => hk e' (List.mem_cons_of_mem e he')
      rw [loadImports_cons hhead ha, loadAt_kept he]
      dsimp only
      rw [hrest]
      rfl

/-- A load that failed fails again in the same way, whatever the store, and changes nothing. -/
def FailsAgain (load : LoadState → Except ModelFault α × LoadState) (outcome : Except ModelFault α)
    (t : LoadState) : Prop :=
  ∀ e, outcome = .error e → ∀ store : Store, store.Ahead →
    ∃ store', load ⟨t.modules, store⟩ = (.error e, ⟨t.modules, store'⟩)

theorem FailsAgain.of_ok {load : LoadState → Except ModelFault α × LoadState} {a : α} :
    FailsAgain load (.ok a) t := fun e h => absurd h (by simp)

theorem FailsAgain.of_error {load : LoadState → Except ModelFault α × LoadState} {e : ModelFault}
    (h : ∀ store : Store, load ⟨t.modules, store⟩ = (.error e, ⟨t.modules, store⟩)) :
    FailsAgain load (.error e) t := by
  intro e' he store _
  cases he
  exact ⟨store, h store⟩

theorem Available.mono {target : Uri} (h : Available documents s target)
    (hg : Grows loading s t) (store : Store) : Available documents ⟨t.modules, store⟩ target := by
  refine h.imp id ?_
  intro hm
  rw [NamedMap.contains_eq_isSome, Option.isSome_iff_exists] at hm ⊢
  obtain ⟨m, hm⟩ := hm
  exact ⟨m, hg.kept target m hm⟩

theorem repetition_cases (setup : Setup) (join : Uri → String → Option Uri)
    (documents : Documents) :
    Cases setup join documents
      (fun loading u s outcome t =>
        Adds loading s (fun m => t.modules.get? u = some m) outcome t ∧
          (s.store.Ahead → t.store.Ahead ∧
            FailsAgain (loadAt setup join documents loading u) outcome t))
      (fun loading u owner hrefs s outcome t =>
        Adds loading s (fun ms => Kept join t u hrefs ms) outcome t ∧
          (s.store.Ahead → t.store.Ahead ∧
            FailsAgain (loadImports setup join documents loading u owner hrefs) outcome t)) where
  cached hm := ⟨(growth_cases setup join documents).cached hm, fun h => ⟨h, .of_ok⟩⟩
  cycle hm hu := ⟨.of_error Grows.refl, fun h => ⟨h, .of_error fun _ => loadAt_cycle hm hu⟩⟩
  missing hm hu hd :=
    ⟨.of_error Grows.refl, fun h => ⟨h, .of_error fun _ => loadAt_missing hm hu hd⟩⟩
  importsFail hm hu hd hq := by
    obtain ⟨hadds, hagain⟩ := hq
    refine ⟨.of_error hadds.grows.of_concat, fun h => ?_⟩
    obtain ⟨ht, hagain⟩ := hagain h
    refine ⟨ht, ?_⟩
    intro e he store hs
    cases he
    obtain ⟨store', hl⟩ := hagain _ rfl store hs
    refine ⟨store', ?_⟩
    rw [loadAt_again hadds.grows hm store hu hd, hl]
  buildFails hm hu hd hq hb := by
    obtain ⟨hadds, hagain⟩ := hq
    refine ⟨.of_error hadds.grows.of_concat.of_store, fun h => ?_⟩
    have ht := (hagain h).1
    refine ⟨Module.ahead_of_build ht hb, ?_⟩
    intro e he store hs
    cases he
    -- the imports are kept, and the module is refused for the same reason
    have hf := Module.build_fails_again ht hb hs
    rw [loadAt_again hadds.grows hm store hu hd, loadImports_kept (hadds.kept _ rfl)]
    dsimp only
    split
    · rename_i e' store' hb'
      rw [hb'] at hf
      cases hf
      exact ⟨store', rfl⟩
    · rename_i m store' hb'
      rw [hb'] at hf
      exact absurd hf (by simp)
  built hm hu hd hq hb := by
    refine ⟨(growth_cases setup join documents).built hm hu hd hq.1 hb, fun h => ?_⟩
    have ht := Module.ahead_of_build (hq.2 h).1 hb
    exact ⟨ht.of_undisturbed (Store.undisturbed_note _ _), .of_ok⟩
  nil := ⟨.of_ok Grows.refl .nil, fun h => ⟨h, .of_ok⟩⟩
  invalid hj := ⟨.of_error Grows.refl, fun h => ⟨h, .of_error fun _ => loadImports_invalid hj _⟩⟩
  unavailable hj ha :=
    ⟨.of_error Grows.refl, fun h => ⟨h, .of_error fun _ => loadImports_unavailable hj ha⟩⟩
  headFails hj ha hp := by
    obtain ⟨hadds, hagain⟩ := hp
    refine ⟨.of_error hadds.grows, fun h => ?_⟩
    obtain ⟨ht, hagain⟩ := hagain h
    refine ⟨ht, ?_⟩
    intro e he store hs
    cases he
    obtain ⟨store', hl⟩ := hagain _ rfl store hs
    refine ⟨store', ?_⟩
    rw [loadImports_cons hj (ha.mono hadds.grows store), hl]
  tailFails hj ha hp hq := by
    obtain ⟨hadds, hahead⟩ := hp
    obtain ⟨hadds', hagain⟩ := hq
    have hgrows := hadds.grows.trans hadds'.grows
    refine ⟨.of_error hgrows, fun h => ?_⟩
    obtain ⟨ht, hagain⟩ := hagain (hahead h).1
    refine ⟨ht, ?_⟩
    intro e he store hs
    cases he
    obtain ⟨store', hl⟩ := hagain _ rfl store hs
    refine ⟨store', ?_⟩
    rw [loadImports_cons hj (ha.mono hgrows store),
      loadAt_kept (hadds'.grows.kept _ _ (hadds.kept _ rfl))]
    dsimp only
    rw [hl]
  cons hj _ hp hq := ⟨hp.1.cons hq.1 hj, fun h => ⟨(hq.2 (hp.2 h).1).1, .of_ok⟩⟩

theorem loadAt_ahead (loading : List Uri) (u : Uri) (h : s.store.Ahead) :
    (loadAt setup join documents loading u s).2.store.Ahead := by
  obtain ⟨-, hagain⟩ := (loading_rule (repetition_cases setup join documents)).1 loading u s
  exact (hagain h).1

theorem loadAt_fails_again (loading : List Uri) (u : Uri) (h : s.store.Ahead) :
    FailsAgain (loadAt setup join documents loading u)
      (loadAt setup join documents loading u s).1 (loadAt setup join documents loading u s).2 := by
  obtain ⟨-, hagain⟩ := (loading_rule (repetition_cases setup join documents)).1 loading u s
  exact (hagain h).2

end Loading

theorem Loader.loadWith_fails_again {setup : Setup} {join : Uri → String → Option Uri}
    {l l' : Loader} {location : Uri} {s t : Store} {fault : ModelFault} (hs : s.Ahead)
    (h : l.loadWith join setup location s = (.error fault, l', t)) :
    ∃ t', l'.loadWith join setup location t = (.error fault, l', t') := by
  have hagain : Loading.FailsAgain (Loading.loadAt setup join l.documents [] location)
      (Loading.loadAt setup join l.documents [] location ⟨l.modules, s⟩).1
      (Loading.loadAt setup join l.documents [] location ⟨l.modules, s⟩).2 :=
    Loading.loadAt_fails_again [] location hs
  have hahead : (Loading.loadAt setup join l.documents [] location ⟨l.modules, s⟩).2.store.Ahead :=
    Loading.loadAt_ahead [] location hs
  unfold loadWith at h ⊢
  cases hl : Loading.loadAt setup join l.documents [] location ⟨l.modules, s⟩ with
  | mk outcome state =>
    rw [hl] at h hagain hahead
    cases h
    obtain ⟨t', ht'⟩ := hagain fault rfl state.store hahead
    refine ⟨t', ?_⟩
    dsimp only
    rw [ht']

end InfoModel

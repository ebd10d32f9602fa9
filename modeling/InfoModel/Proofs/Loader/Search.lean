import InfoModel.Proofs.Building.Declared
import InfoModel.Proofs.Loader.Rule

/-!
# Loading when nothing is kept

Without the modules that a loader keeps, loading is a plain depth-first search along imports, which
ends where a location is met again. A location is found exactly if a module can be composed from the
documents below it and no location on the way is met again; how far the search has come does not
matter otherwise. Main statements: `foundAt_eq_ok_iff`, `Composed.acyclic`.
-/

namespace InfoModel

namespace Loading

section
variable (setup : Setup) (join : Uri → String → Option Uri) (documents : Documents)

def ImportsAt (u v : Uri) : Prop :=
  ∃ d, documents.get? u = some d ∧ ∃ href ∈ d.imports, join u href = some v

def Reaches (u v : Uri) : Prop := Relation.ReflTransGen (ImportsAt join documents) u v

/-- No way along imports leads from a location below `u` back to it. -/
def AcyclicFrom (u : Uri) : Prop :=
  ∀ v, Reaches join documents u v → ¬ Relation.TransGen (ImportsAt join documents) v v

/-- A module for a location that `make` makes of its document and of such modules for its imports,
in order. -/
inductive Composed (make : ModuleDecl → Uri → List Module → Module → Prop) :
    Uri → Module → Prop where
  | intro {u : Uri} {d : ModuleDecl} {m : Module} {found : List (Uri × Module)}
      (hd : documents.get? u = some d) (hj : d.imports.map (join u) = found.map fun e => some e.1)
      (hf : ∀ e ∈ found, Composed make e.1 e.2) (hm : make d u (found.map (·.2)) m) :
      Composed make u m

/-- A module is what a document declares, numbers aside. -/
def Declares (d : ModuleDecl) (u : Uri) (imports : List Module) (m : Module) : Prop :=
  Module.declared setup 0 d (some u) imports = .ok m

/-- What loading the imports of a document gives, where `find` finds the module at a location. -/
def foundImports (find : Uri → Except ModelFault Module) (location : Uri) (owner : String) :
    List String → Except ModelFault (List Module)
  | [] => .ok []
  | href :: hrefs =>
    match join location href with
    | none => .error (.basic (.invalidUri href))
    | some target =>
      if documents.contains target then do
        let m ← find target
        let ms ← foundImports find location owner hrefs
        return m :: ms
      else .error (.missingImport href owner)

/-- What loading a location gives, while others are being loaded, if nothing is kept. -/
def foundAt (loading : List Uri) (location : Uri) : Except ModelFault Module :=
  if _hu : location ∈ loading then .error (cycleFault loading location)
  else
    match _hd : documents.get? location with
    | none => .error (.missingImport location.text loaderName)
    | some d => do
      let imports ← foundImports join documents
        (fun target => foundAt (loading ++ [location]) target) location d.shortName d.imports
      Module.declared setup 0 d (some location) imports
termination_by waiting documents loading
decreasing_by exact waiting_append_lt _hd _hu

end

variable {setup : Setup} {join : Uri → String → Option Uri} {documents : Documents}

theorem foundAt_cycle {loading : List Uri} {location : Uri} (hu : location ∈ loading) :
    foundAt setup join documents loading location = .error (cycleFault loading location) := by
  rw [foundAt, dif_pos hu]

theorem foundAt_missing {loading : List Uri} {location : Uri} (hu : location ∉ loading)
    (hd : documents.get? location = none) :
    foundAt setup join documents loading location =
      .error (.missingImport location.text loaderName) := by
  rw [foundAt, dif_neg hu]
  split
  · rfl
  · rename_i d h
    rw [hd] at h
    exact absurd h (by simp)

theorem foundAt_document {loading : List Uri} {location : Uri} {d : ModuleDecl}
    (hu : location ∉ loading) (hd : documents.get? location = some d) :
    foundAt setup join documents loading location =
      (foundImports join documents (foundAt setup join documents (loading ++ [location])) location
        d.shortName d.imports >>= fun imports =>
          Module.declared setup 0 d (some location) imports) := by
  rw [foundAt, dif_neg hu]
  split
  · rename_i h
    rw [hd] at h
    exact absurd h (by simp)
  · rename_i d' h
    rw [hd] at h
    cases h
    rfl

section
variable {find : Uri → Except ModelFault Module} {location target : Uri} {owner href : String}
  {hrefs : List String}

theorem foundImports_invalid (hj : join location href = none) :
    foundImports join documents find location owner (href :: hrefs) =
      .error (.basic (.invalidUri href)) := by
  unfold foundImports
  rw [hj]

theorem foundImports_missing (hj : join location href = some target)
    (hc : ¬ documents.contains target = true) :
    foundImports join documents find location owner (href :: hrefs) =
      .error (.missingImport href owner) := by
  unfold foundImports
  rw [hj]
  exact if_neg hc

theorem foundImports_cons (hj : join location href = some target)
    (hc : documents.contains target = true) :
    foundImports join documents find location owner (href :: hrefs) =
      (find target >>= fun m =>
        foundImports join documents find location owner hrefs >>= fun ms => pure (m :: ms)) := by
  rw [foundImports, hj]
  exact if_pos hc

end

/-- What holds of a location as soon as it holds of all locations while this one is being loaded too
holds of every location. -/
theorem search_induct (documents : Documents) {P : List Uri → Uri → Prop}
    (step : ∀ loading u, (∀ d, u ∉ loading → documents.get? u = some d →
      ∀ v, P (loading ++ [u]) v) → P loading u) : ∀ loading u, P loading u := by
  intro loading u
  refine step loading u ?_
  intro d hu hd v
  exact search_induct documents step (loading ++ [u]) v
termination_by loading => waiting documents loading
decreasing_by exact waiting_append_lt hd hu

theorem of_foundImports {find : Uri → Except ModelFault Module} {location : Uri} {owner : String}
    {hrefs : List String} {ms : List Module}
    (h : foundImports join documents find location owner hrefs = .ok ms) :
    ∃ found : List (Uri × Module), hrefs.map (join location) = found.map (fun e => some e.1) ∧
      ms = found.map (·.2) ∧ ∀ e ∈ found, find e.1 = .ok e.2 := by
  induction hrefs generalizing ms with
  | nil =>
    cases h
    exact ⟨[], rfl, rfl, fun e he => absurd he List.not_mem_nil⟩
  | cons href hrefs ih =>
    unfold foundImports at h
    split at h
    · exact absurd h (by simp)
    · rename_i target hj
      split at h
      · obtain ⟨m, hm, h⟩ := Except.bind_eq_ok_iff.mp h
        obtain ⟨rest, hrest, h⟩ := Except.bind_eq_ok_iff.mp h
        cases h
        obtain ⟨found, hmap, rfl, hf⟩ := ih hrest
        refine ⟨(target, m) :: found, ?_, rfl, ?_⟩
        · rw [List.map_cons, List.map_cons, hj, hmap]
        · intro e he
          rcases List.mem_cons.mp he with rfl | he
          · exact hm
          · exact hf e he
      · exact absurd h (by simp)

theorem foundImports_eq_ok {find : Uri → Except ModelFault Module} {location : Uri} {owner : String}
    {hrefs : List String} {found : List (Uri × Module)}
    (hj : hrefs.map (join location) = found.map fun e => some e.1)
    (hc : ∀ e ∈ found, documents.contains e.1 = true) (hf : ∀ e ∈ found, find e.1 = .ok e.2) :
    foundImports join documents find location owner hrefs = .ok (found.map (·.2)) := by
  induction hrefs generalizing found with
  | nil =>
    cases found with
    | nil => rfl
    | cons e found => exact absurd hj (by simp)
  | cons href hrefs ih =>
    cases found with
    | nil => exact absurd hj (by simp)
    | cons e found =>
      obtain ⟨hhead, htail⟩ := List.cons_eq_cons.mp hj
      have hrest := ih htail (fun e' he => hc e' (List.mem_cons_of_mem e he))
        fun e' he => hf e' (List.mem_cons_of_mem e he)
      rw [foundImports_cons hhead (hc e List.mem_cons_self), hf e List.mem_cons_self, hrest]
      rfl

theorem importsAt_of_mem {u : Uri} {d : ModuleDecl} {found : List (Uri × Module)}
    (hd : documents.get? u = some d) (hj : d.imports.map (join u) = found.map fun e => some e.1)
    {e : Uri × Module} (he : e ∈ found) : ImportsAt join documents u e.1 := by
  have hm : some e.1 ∈ d.imports.map (join u) := hj ▸ List.mem_map.mpr ⟨e, he, rfl⟩
  obtain ⟨href, hh, ht⟩ := List.mem_map.mp hm
  exact ⟨d, hd, href, hh, ht⟩

theorem exists_of_importsAt {u v : Uri} {d : ModuleDecl} {found : List (Uri × Module)}
    (hd : documents.get? u = some d) (hj : d.imports.map (join u) = found.map fun e => some e.1)
    (h : ImportsAt join documents u v) : ∃ e ∈ found, e.1 = v := by
  obtain ⟨d', hd', href, hh, ht⟩ := h
  rw [hd] at hd'
  cases hd'
  have hm : join u href ∈ found.map fun e => some e.1 := hj ▸ List.mem_map_of_mem hh
  obtain ⟨e, he, hev⟩ := List.mem_map.mp hm
  rw [ht] at hev
  exact ⟨e, he, Option.some.inj hev⟩

namespace Composed
variable {make : ModuleDecl → Uri → List Module → Module → Prop} {u v : Uri} {m : Module}

theorem contains (h : Composed join documents make u m) : documents.contains u = true := by
  obtain ⟨hd, -, -, -⟩ := h
  rw [NamedMap.contains_eq_isSome, hd]
  rfl

theorem of_reaches (h : Composed join documents make u m) (hr : Reaches join documents u v) :
    ∃ m', Composed join documents make v m' := by
  induction hr with
  | refl => exact ⟨m, h⟩
  | tail _ hi ih =>
    obtain ⟨m', hm'⟩ := ih
    obtain ⟨hd, hj, hf, -⟩ := hm'
    obtain ⟨e, he, rfl⟩ := exists_of_importsAt hd hj hi
    exact ⟨e.2, hf e he⟩

theorem not_transGen (h : Composed join documents make u m) :
    ¬ Relation.TransGen (ImportsAt join documents) u u := by
  induction h with
  | @intro u d m found hd hj hf hm ih =>
    intro hc
    obtain ⟨v, hv, hr⟩ := Relation.TransGen.head'_iff.mp hc
    obtain ⟨e, he, rfl⟩ := exists_of_importsAt hd hj hv
    exact ih e he (Relation.TransGen.tail' hr hv)

theorem acyclic (h : Composed join documents make u m) : AcyclicFrom join documents u := by
  intro v hr
  obtain ⟨m', hm'⟩ := h.of_reaches hr
  exact hm'.not_transGen

end Composed

theorem composed_of_foundAt (loading : List Uri) (u : Uri) : ∀ m,
    foundAt setup join documents loading u = .ok m →
      Composed join documents (Declares setup) u m ∧
        ∀ v, Reaches join documents u v → v ∉ loading := by
  induction loading, u using search_induct documents with
  | step loading u ih =>
    intro m hm
    by_cases hu : u ∈ loading
    · rw [foundAt_cycle hu] at hm
      exact absurd hm (by simp)
    · cases hd : documents.get? u with
      | none =>
        rw [foundAt_missing hu hd] at hm
        exact absurd hm (by simp)
      | some d =>
        rw [foundAt_document hu hd] at hm
        obtain ⟨ms, hms, hm⟩ := Except.bind_eq_ok_iff.mp hm
        obtain ⟨found, hj, rfl, hf⟩ := of_foundImports hms
        have hall := fun e he => ih d hu hd e.1 e.2 (hf e he)
        refine ⟨.intro hd hj (fun e he => (hall e he).1) hm, ?_⟩
        intro v hr
        rcases Relation.ReflTransGen.cases_head hr with rfl | ⟨w, hw, hr⟩
        · exact hu
        · obtain ⟨e, he, rfl⟩ := exists_of_importsAt hd hj hw
          exact fun hv => (hall e he).2 v hr (List.mem_append_left _ hv)

theorem foundAt_of_composed {u : Uri} {m : Module}
    (h : Composed join documents (Declares setup) u m) :
    ∀ loading, (∀ v, Reaches join documents u v → v ∉ loading) →
      foundAt setup join documents loading u = .ok m := by
  induction h with
  | @intro u d m found hd hj hf hm ih =>
    intro loading hl
    rw [foundAt_document (hl u Relation.ReflTransGen.refl) hd]
    have hfound : ∀ e ∈ found,
        foundAt setup join documents (loading ++ [u]) e.1 = .ok e.2 := by
      intro e he
      have hi := importsAt_of_mem hd hj he
      refine ih e he (loading ++ [u]) ?_
      intro v hr hv
      rcases List.mem_append.mp hv with hv | hv
      · exact hl v (Relation.ReflTransGen.head hi hr) hv
      · -- `u` would be below itself
        rw [List.mem_singleton.mp hv] at hr
        exact (Composed.intro hd hj hf hm).not_transGen (Relation.TransGen.head' hi hr)
    rw [foundImports_eq_ok hj (fun e he => (hf e he).contains) hfound]
    exact hm

/-- A location is found if a module can be composed for it and no location below it is being
loaded. -/
theorem foundAt_eq_ok_iff {loading : List Uri} {u : Uri} {m : Module} :
    foundAt setup join documents loading u = .ok m ↔
      Composed join documents (Declares setup) u m ∧
        ∀ v, Reaches join documents u v → v ∉ loading := by
  constructor
  · exact composed_of_foundAt loading u m
  · rintro ⟨h, hl⟩
    exact foundAt_of_composed h loading hl

theorem foundAt_nil_eq_ok_iff {u : Uri} {m : Module} :
    foundAt setup join documents [] u = .ok m ↔ Composed join documents (Declares setup) u m := by
  rw [foundAt_eq_ok_iff]
  exact and_iff_left fun v _ => List.not_mem_nil

theorem Composed.unique {u : Uri} {m m' : Module}
    (h : Composed join documents (Declares setup) u m)
    (h' : Composed join documents (Declares setup) u m') : m = m' := by
  have hf := foundAt_nil_eq_ok_iff.mpr h
  rw [foundAt_nil_eq_ok_iff.mpr h'] at hf
  exact (Except.ok.inj hf).symm

end Loading

end InfoModel

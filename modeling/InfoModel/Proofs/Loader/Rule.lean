import InfoModel.Model.Loader
import InfoModel.Proofs.Outcome

/-!
# How loading proceeds

Loading a location ends at once if a module is kept there, if the location is being loaded already,
or if there is no document; else the imports are loaded, the module is built and kept. Main
statement: `loading_rule`, by which whatever holds in each of these cases holds of every load.
-/

namespace InfoModel

namespace Loading
variable {setup : Setup} {join : Uri → String → Option Uri} {documents : Documents}

def cycleFault (loading : List Uri) (location : Uri) : ModelFault :=
  .importCycle (((loading.dropWhile (· ≠ location)) ++ [location]).map Uri.text)

def kept (location : Uri) (m : Module) (s : LoadState) (store : Store) : LoadState :=
  ⟨s.modules.insert location m, store.note [.loadedModule m.shortName location.text]⟩

def Available (documents : Documents) (s : LoadState) (location : Uri) : Prop :=
  documents.contains location = true ∨ s.modules.contains location = true

theorem loadAt_cached {loading : List Uri} {location : Uri} {s : LoadState} {m : Module}
    (hm : s.modules.get? location = some m) :
    loadAt setup join documents loading location s = (.ok m, s) := by
  rw [loadAt, stateful_get, hm]
  rfl

theorem loadAt_cycle {loading : List Uri} {location : Uri} {s : LoadState}
    (hm : s.modules.get? location = none) (hu : location ∈ loading) :
    loadAt setup join documents loading location s = (.error (cycleFault loading location), s) := by
  rw [loadAt, stateful_get, hm]
  simp only [hu, dif_pos]
  rfl

theorem loadAt_missing {loading : List Uri} {location : Uri} {s : LoadState}
    (hm : s.modules.get? location = none) (hu : location ∉ loading)
    (hd : documents.get? location = none) :
    loadAt setup join documents loading location s =
      (.error (.missingImport location.text loaderName), s) := by
  rw [loadAt, stateful_get, hm]
  simp only [hu, dif_neg, not_false_eq_true]
  refine congrFun (g := (throw (.missingImport location.text loaderName) : Loading Module)) ?_ s
  split
  · rfl
  · rename_i d h
    rw [hd] at h
    exact absurd h (by simp)

/-- What is left to do at a location with a document: to load its imports, then to build its module
and keep it. -/
def loadDocument (setup : Setup) (join : Uri → String → Option Uri) (documents : Documents)
    (loading : List Uri) (location : Uri) (d : ModuleDecl) : Loading Module := do
  let imports ← loadImports setup join documents (loading ++ [location]) location d.shortName
    d.imports
  let m ← ofRequest (Module.build setup d (some location) imports)
  ofRequest (Request.notice (.loadedModule m.shortName location.text))
  keep location m
  return m

theorem loadAt_document {loading : List Uri} {location : Uri} {s : LoadState} {d : ModuleDecl}
    (hm : s.modules.get? location = none) (hu : location ∉ loading)
    (hd : documents.get? location = some d) :
    loadAt setup join documents loading location s =
      match loadImports setup join documents (loading ++ [location]) location d.shortName d.imports
        s with
      | (.error e, t) => (.error e, t)
      | (.ok imports, t) =>
        match Module.build setup d (some location) imports t.store with
        | (.error e, store) => (.error e, { t with store := store })
        | (.ok m, store) => (.ok m, kept location m t store) := by
  rw [loadAt, stateful_get, hm]
  simp only [hu, dif_neg, not_false_eq_true]
  refine Eq.trans (congrFun
    (g := loadDocument setup join documents loading location d) ?_ s) ?_
  · split
    · rename_i h
      rw [hd] at h
      exact absurd h (by simp)
    · rename_i d' h
      rw [hd] at h
      cases h
      rfl
  unfold loadDocument
  rw [stateful_bind]
  cases loadImports setup join documents (loading ++ [location]) location d.shortName d.imports s
  with
  | mk outcome t =>
    cases outcome with
    | error e => rfl
    | ok imports =>
      simp only []
      rw [stateful_bind]
      unfold ofRequest
      cases Module.build setup d (some location) imports t.store with
      | mk outcome store =>
        cases outcome with
        | ok m => rfl
        | error e => rfl

theorem loadImports_invalid {loading : List Uri} {location : Uri} {owner href : String}
    {hrefs : List String} (hj : join location href = none) (s : LoadState) :
    loadImports setup join documents loading location owner (href :: hrefs) s =
      (.error (.basic (.invalidUri href)), s) := by
  rw [loadImports]
  simp only [hj]
  rfl

theorem loadImports_unavailable {loading : List Uri} {location target : Uri} {owner href : String}
    {hrefs : List String} {s : LoadState} (hj : join location href = some target)
    (ha : ¬ Available documents s target) :
    loadImports setup join documents loading location owner (href :: hrefs) s =
      (.error (.missingImport href owner), s) := by
  rw [loadImports]
  simp only [hj]
  rw [stateful_get]
  have hc : ¬ (documents.contains target || s.modules.contains target) = true := by
    rw [Bool.or_eq_true]
    exact ha
  rw [if_neg hc]
  rfl

theorem loadImports_cons {loading : List Uri} {location target : Uri} {owner href : String}
    {hrefs : List String} {s : LoadState} (hj : join location href = some target)
    (ha : Available documents s target) :
    loadImports setup join documents loading location owner (href :: hrefs) s =
      match loadAt setup join documents loading target s with
      | (.error e, t) => (.error e, t)
      | (.ok m, t) =>
        match loadImports setup join documents loading location owner hrefs t with
        | (.error e, t') => (.error e, t')
        | (.ok ms, t') => (.ok (m :: ms), t') := by
  rw [loadImports]
  simp only [hj]
  rw [stateful_get]
  have hc : (documents.contains target || s.modules.contains target) = true := by
    rw [Bool.or_eq_true]
    exact ha
  rw [if_pos hc, stateful_bind]
  cases loadAt setup join documents loading target s with
  | mk outcome t =>
    cases outcome with
    | error e => rfl
    | ok m =>
      simp only []
      rw [stateful_bind]
      cases loadImports setup join documents loading location owner hrefs t with
      | mk outcome t' =>
        cases outcome with
        | ok ms => rfl
        | error e => rfl

theorem loadImports_nil {loading : List Uri} {location : Uri} {owner : String} (s : LoadState) :
    loadImports setup join documents loading location owner [] s = (.ok [], s) := by
  rw [loadImports]
  rfl

/-- What is to be shown so that `P` holds of every load of a location and `Q` of every load of the
imports of a document. -/
structure Cases (setup : Setup) (join : Uri → String → Option Uri) (documents : Documents)
    (P : List Uri → Uri → LoadState → Except ModelFault Module → LoadState → Prop)
    (Q : List Uri → Uri → String → List String → LoadState → Except ModelFault (List Module) →
      LoadState → Prop) : Prop where
  cached : ∀ {loading location s m}, s.modules.get? location = some m →
    P loading location s (.ok m) s
  cycle : ∀ {loading location s}, s.modules.get? location = none → location ∈ loading →
    P loading location s (.error (cycleFault loading location)) s
  missing : ∀ {loading location s}, s.modules.get? location = none → location ∉ loading →
    documents.get? location = none →
    P loading location s (.error (.missingImport location.text loaderName)) s
  importsFail : ∀ {loading location s d e t}, s.modules.get? location = none → location ∉ loading →
    documents.get? location = some d →
    Q (loading ++ [location]) location d.shortName d.imports s (.error e) t →
    P loading location s (.error e) t
  buildFails : ∀ {loading location s d imports t e store}, s.modules.get? location = none →
    location ∉ loading → documents.get? location = some d →
    Q (loading ++ [location]) location d.shortName d.imports s (.ok imports) t →
    Module.build setup d (some location) imports t.store = (.error e, store) →
    P loading location s (.error e) { t with store := store }
  built : ∀ {loading location s d imports t m store}, s.modules.get? location = none →
    location ∉ loading → documents.get? location = some d →
    Q (loading ++ [location]) location d.shortName d.imports s (.ok imports) t →
    Module.build setup d (some location) imports t.store = (.ok m, store) →
    P loading location s (.ok m) (kept location m t store)
  nil : ∀ {loading location owner s}, Q loading location owner [] s (.ok []) s
  invalid : ∀ {loading location owner href hrefs s}, join location href = none →
    Q loading location owner (href :: hrefs) s (.error (.basic (.invalidUri href))) s
  unavailable : ∀ {loading location owner href hrefs target s}, join location href = some target →
    ¬ Available documents s target →
    Q loading location owner (href :: hrefs) s (.error (.missingImport href owner)) s
  headFails : ∀ {loading location owner href hrefs target s e t}, join location href = some target →
    Available documents s target → P loading target s (.error e) t →
    Q loading location owner (href :: hrefs) s (.error e) t
  tailFails : ∀ {loading location owner href hrefs target s m t e t'},
    join location href = some target → Available documents s target →
    P loading target s (.ok m) t → Q loading location owner hrefs t (.error e) t' →
    Q loading location owner (href :: hrefs) s (.error e) t'
  cons : ∀ {loading location owner href hrefs target s m t ms t'},
    join location href = some target → Available documents s target →
    P loading target s (.ok m) t → Q loading location owner hrefs t (.ok ms) t' →
    Q loading location owner (href :: hrefs) s (.ok (m :: ms)) t'

/-- Whatever holds in each of the cases holds of every load. -/
theorem loading_rule
    {P : List Uri → Uri → LoadState → Except ModelFault Module → LoadState → Prop}
    {Q : List Uri → Uri → String → List String → LoadState → Except ModelFault (List Module) →
      LoadState → Prop} (c : Cases setup join documents P Q) :
    (∀ loading location s, P loading location s
      (loadAt setup join documents loading location s).1
      (loadAt setup join documents loading location s).2) ∧
    ∀ loading location owner hrefs s, Q loading location owner hrefs s
      (loadImports setup join documents loading location owner hrefs s).1
      (loadImports setup join documents loading location owner hrefs s).2 := by
  refine loadAt.mutual_induct join documents _ _ ?_ ?_ ?_ ?_
  · intro loading location ih s
    cases hm : s.modules.get? location with
    | some m =>
      rw [loadAt_cached hm]
      exact c.cached hm
    | none =>
      by_cases hu : location ∈ loading
      · rw [loadAt_cycle hm hu]
        exact c.cycle hm hu
      · cases hd : documents.get? location with
        | none =>
          rw [loadAt_missing hm hu hd]
          exact c.missing hm hu hd
        | some d =>
          have hq := ih hu d hd s
          rw [loadAt_document hm hu hd]
          cases hi : loadImports setup join documents (loading ++ [location]) location d.shortName
              d.imports s with
          | mk outcome t =>
            rw [hi] at hq
            cases outcome with
            | error e => exact c.importsFail hm hu hd hq
            | ok imports =>
              simp only []
              cases hb : Module.build setup d (some location) imports t.store with
              | mk outcome store =>
                cases outcome with
                | error e => exact c.buildFails hm hu hd hq hb
                | ok m => exact c.built hm hu hd hq hb
  · intro loading location owner s
    rw [loadImports_nil]
    exact c.nil
  · intro loading location owner href hrefs hj s
    rw [loadImports_invalid hj]
    exact c.invalid hj
  · intro loading location owner href hrefs target hj ihAt ihImports s
    by_cases ha : Available documents s target
    · rw [loadImports_cons hj ha]
      have hp := ihAt s
      cases hl : loadAt setup join documents loading target s with
      | mk outcome t =>
        rw [hl] at hp
        cases outcome with
        | error e => exact c.headFails hj ha hp
        | ok m =>
          have hq := ihImports t
          simp only []
          cases hi : loadImports setup join documents loading location owner hrefs t with
          | mk outcome t' =>
            rw [hi] at hq
            cases outcome with
            | error e => exact c.tailFails hj ha hp hq
            | ok ms => exact c.cons hj ha hp hq
    · rw [loadImports_unavailable hj ha]
      exact c.unavailable hj ha

end Loading

end InfoModel

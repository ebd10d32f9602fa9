import InfoModel.Proofs.Loader.Search

/-!
# What is kept makes no difference

A loader keeps modules that it built for documents that it still has. Then loading gives what the
search without anything kept gives, numbers aside, faults included. Main statement: `loadAt_agrees`.
-/

namespace InfoModel

namespace Loading

section
variable (setup : Setup) (join : Uri → String → Option Uri) (documents : Documents)

/-- Whatever is kept was composed from the documents, and the numbers to be given out are clear. -/
structure Sound (s : LoadState) : Prop where
  composed : ∀ u m, s.modules.get? u = some m →
    Composed join documents (Declares setup) u m.unnumbered
  ahead : s.store.Ahead

/-- The outcome is that of the search without anything kept, numbers aside, and what is kept
afterwards was composed from the documents. -/
def Agrees (s : LoadState) (f : α → β) (outcome : Except ModelFault α) (found : Except ModelFault β)
    (t : LoadState) : Prop :=
  Sound setup join documents s → outcome.map f = found ∧ Sound setup join documents t

end

variable {setup : Setup} {join : Uri → String → Option Uri} {documents : Documents}
  {loading : List Uri} {u : Uri} {s t : LoadState}

theorem Sound.empty {store : Store} (h : store.Ahead) :
    Sound setup join documents ⟨.empty, store⟩ :=
  ⟨fun u m hm => absurd hm (by simp [NamedMap.get?_empty]), h⟩

theorem Sound.of_store {store : Store} (h : Sound setup join documents s) (hs : store.Ahead) :
    Sound setup join documents { s with store := store } := ⟨h.composed, hs⟩

theorem Sound.kept {m : Module} {store : Store} (h : Sound setup join documents s)
    (hm : Composed join documents (Declares setup) u m.unnumbered) (hs : store.Ahead) :
    Sound setup join documents (kept u m s store) := by
  refine ⟨?_, hs.of_undisturbed (Store.undisturbed_note store _)⟩
  intro v m' hv
  have hi : (s.modules.insert u m).get? v = some m' := hv
  rw [NamedMap.get?_insert] at hi
  split at hi
  · rename_i hvu
    cases hi
    exact hvu ▸ hm
  · exact h.composed v m' hi

theorem Sound.available_iff (h : Sound setup join documents s) {target : Uri} :
    Available documents s target ↔ documents.contains target = true := by
  constructor
  · rintro (hd | hm)
    · exact hd
    · rw [NamedMap.contains_eq_isSome, Option.isSome_iff_exists] at hm
      obtain ⟨m, hm⟩ := hm
      exact (h.composed target m hm).contains
  · exact .inl

/-- A module is kept only if its location would be found while those that lead to it are being
loaded: they are not below it. -/
theorem Sound.foundAt_eq {m : Module} (h : Sound setup join documents s)
    (hl : ∀ v ∈ loading, Relation.TransGen (ImportsAt join documents) v u)
    (hm : s.modules.get? u = some m) :
    foundAt setup join documents loading u = .ok m.unnumbered := by
  have hc := h.composed u m hm
  refine foundAt_of_composed hc loading ?_
  intro v hr hv
  exact hc.not_transGen (Relation.TransGen.trans_right hr (hl v hv))

theorem reaches_concat (h : ∀ v ∈ loading, Relation.TransGen (ImportsAt join documents) v u) :
    ∀ v ∈ loading ++ [u], Reaches join documents v u := by
  intro v hv
  rcases List.mem_append.mp hv with hv | hv
  · exact (h v hv).to_reflTransGen
  · rw [List.mem_singleton.mp hv]
    exact Relation.ReflTransGen.refl

theorem importsAt_of_document {d : ModuleDecl} (hd : documents.get? u = some d) :
    ∀ href ∈ d.imports, ∀ v, join u href = some v → ImportsAt join documents u v :=
  fun href hh _ hj => ⟨d, hd, href, hh, hj⟩

theorem map_unnumbered_of_build {d : ModuleDecl} {imports : List Module} {store store' : Store}
    {outcome : Except ModelFault Module} (hu : u ∉ loading) (hd : documents.get? u = some d)
    (hi : Except.ok (imports.map Module.unnumbered) = foundImports join documents
      (foundAt setup join documents (loading ++ [u])) u d.shortName d.imports)
    (hb : Module.build setup d (some u) imports store = (outcome, store')) (h : store.Ahead) :
    outcome.map Module.unnumbered = foundAt setup join documents loading u := by
  rw [foundAt_document hu hd, ← hi]
  exact Module.map_unnumbered_of_build h hb

theorem agreement_cases (setup : Setup) (join : Uri → String → Option Uri) (documents : Documents) :
    Cases setup join documents
      (fun loading u s outcome t =>
        (∀ v ∈ loading, Relation.TransGen (ImportsAt join documents) v u) →
          Agrees setup join documents s Module.unnumbered outcome
            (foundAt setup join documents loading u) t)
      (fun loading u owner hrefs s outcome t =>
        (∀ v ∈ loading, Reaches join documents v u) →
        (∀ href ∈ hrefs, ∀ v, join u href = some v → ImportsAt join documents u v) →
          Agrees setup join documents s (List.map Module.unnumbered) outcome
            (foundImports join documents (foundAt setup join documents loading) u owner hrefs) t)
  where
  cached hm hl hs := ⟨(hs.foundAt_eq hl hm).symm, hs⟩
  cycle _ hu _ hs := ⟨(foundAt_cycle hu).symm, hs⟩
  missing _ hu hd _ hs := ⟨(foundAt_missing hu hd).symm, hs⟩
  importsFail _ hu hd hq hl hs := by
    obtain ⟨ho, ht⟩ := hq (reaches_concat hl) (importsAt_of_document hd) hs
    refine ⟨?_, ht⟩
    rw [foundAt_document hu hd, ← ho]
    rfl
  buildFails _ hu hd hq hb hl hs := by
    obtain ⟨ho, ht⟩ := hq (reaches_concat hl) (importsAt_of_document hd) hs
    have hf := map_unnumbered_of_build hu hd ho hb ht.ahead
    exact ⟨hf, ht.of_store (Module.ahead_of_build ht.ahead hb)⟩
  built _ hu hd hq hb hl hs := by
    obtain ⟨ho, ht⟩ := hq (reaches_concat hl) (importsAt_of_document hd) hs
    have hf := map_unnumbered_of_build hu hd ho hb ht.ahead
    exact ⟨hf, ht.kept (foundAt_eq_ok_iff.mp hf.symm).1 (Module.ahead_of_build ht.ahead hb)⟩
  nil _ _ hs := ⟨rfl, hs⟩
  invalid hj _ _ hs := ⟨(foundImports_invalid hj).symm, hs⟩
  unavailable hj ha _ _ hs := by
    rw [hs.available_iff] at ha
    exact ⟨(foundImports_missing hj ha).symm, hs⟩
  headFails hj ha hp hl hi hs := by
    rw [hs.available_iff] at ha
    have hi' := hi _ List.mem_cons_self _ hj
    obtain ⟨ho, ht⟩ := hp (fun v hv => Relation.TransGen.tail' (hl v hv) hi') hs
    refine ⟨?_, ht⟩
    rw [foundImports_cons hj ha, ← ho]
    rfl
  tailFails hj ha hp hq hl hi hs := by
    rw [hs.available_iff] at ha
    have hi' := hi _ List.mem_cons_self _ hj
    obtain ⟨ho, ht⟩ := hp (fun v hv => Relation.TransGen.tail' (hl v hv) hi') hs
    obtain ⟨ho', ht'⟩ := hq hl (fun href hh => hi href (List.mem_cons_of_mem _ hh)) ht
    refine ⟨?_, ht'⟩
    rw [foundImports_cons hj ha, ← ho, ← ho']
    rfl
  cons hj ha hp hq hl hi hs := by
    rw [hs.available_iff] at ha
    have hi' := hi _ List.mem_cons_self _ hj
    obtain ⟨ho, ht⟩ := hp (fun v hv => Relation.TransGen.tail' (hl v hv) hi') hs
    obtain ⟨ho', ht'⟩ := hq hl (fun href hh => hi href (List.mem_cons_of_mem _ hh)) ht
    refine ⟨?_, ht'⟩
    rw [foundImports_cons hj ha, ← ho, ← ho']
    rfl

theorem loadAt_agrees (h : Sound setup join documents s)
    (hl : ∀ v ∈ loading, Relation.TransGen (ImportsAt join documents) v u) :
    (loadAt setup join documents loading u s).1.map Module.unnumbered =
        foundAt setup join documents loading u ∧
      Sound setup join documents (loadAt setup join documents loading u s).2 :=
  (loading_rule (agreement_cases setup join documents)).1 loading u s hl h

end Loading

namespace Loader
open Loading

def Sound (setup : Setup) (join : Uri → String → Option Uri) (l : Loader) (s : Store) : Prop :=
  Loading.Sound setup join l.documents ⟨l.modules, s⟩

theorem loadWith_agrees {setup : Setup} {join : Uri → String → Option Uri} {l : Loader} {s : Store}
    (h : l.Sound setup join s) (root : Uri) :
    (l.loadWith join setup root s).1.map Module.unnumbered =
        foundAt setup join l.documents [] root ∧
      (l.loadWith join setup root s).2.1.Sound setup join (l.loadWith join setup root s).2.2 :=
  loadAt_agrees h fun _ hv => absurd hv List.not_mem_nil

end Loader

end InfoModel

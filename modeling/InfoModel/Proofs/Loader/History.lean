import InfoModel.Proofs.Loader.Classification
import InfoModel.Proofs.Loader.Repetition

/-!
# Histories of a loader

Documents are added to a loader and locations are loaded from it in any order. What a load gives in
the end depends on the documents that were added, not on the loads before it. Main statement:
`Loader.load_history_free`.
-/

namespace InfoModel

namespace Loader
open Loading

/-- What may be done with a loader. -/
inductive Op where
  | add (location : Uri) (d : ModuleDecl)
  | load (location : Uri)

def added (ops : List Op) : List (Uri × ModuleDecl) :=
  ops.filterMap fun
    | .add location d => some (location, d)
    | .load _ => none

def addAll (l : Loader) (documents : List (Uri × ModuleDecl)) : Loader :=
  documents.foldl (fun l e => l.add e.1 e.2) l

def next (join : Uri → String → Option Uri) (setup : Setup) (state : Loader × Store) :
    Op → Loader × Store
  | .add location d => (state.1.add location d, state.2)
  | .load location => (state.1.loadWith join setup location state.2).2

def after (join : Uri → String → Option Uri) (setup : Setup) (ops : List Op)
    (state : Loader × Store) : Loader × Store :=
  ops.foldl (next join setup) state

variable {setup : Setup} {join : Uri → String → Option Uri}

theorem composed_mono {documents documents' : Documents}
    {make : ModuleDecl → Uri → List Module → Module → Prop} {u : Uri} {m : Module}
    (hd : ∀ v d, documents.get? v = some d → documents'.get? v = some d)
    (h : Composed join documents make u m) : Composed join documents' make u m := by
  induction h with
  | intro hdoc hj _ hm ih => exact .intro (hd _ _ hdoc) hj ih hm

theorem Sound.add {l : Loader} {s : Store} (h : l.Sound setup join s) {location : Uri}
    (hn : l.documents.get? location = none) (d : ModuleDecl) :
    (l.add location d).Sound setup join s := by
  refine ⟨?_, h.ahead⟩
  intro u m hm
  refine composed_mono ?_ (h.composed u m hm)
  intro v d' hv
  have hne : v ≠ location := by
    intro hvl
    rw [hvl, hn] at hv
    exact absurd hv (by simp)
  show (l.documents.insert location d).get? v = some d'
  rw [NamedMap.get?_insert, if_neg hne]
  exact hv

theorem documents_addAll_eq {l l' : Loader} (h : l.documents = l'.documents)
    (documents : List (Uri × ModuleDecl)) :
    (l.addAll documents).documents = (l'.addAll documents).documents := by
  induction documents generalizing l l' with
  | nil => exact h
  | cons e documents ih =>
    have ha : (l.add e.1 e.2).documents = (l'.add e.1 e.2).documents := by
      unfold add
      rw [h]
    exact ih ha

/-- After a history the loader has the documents that were added, and what it keeps was composed
from them. -/
theorem sound_after {ops : List Op} {l : Loader} {s : Store} (h : l.Sound setup join s)
    (hn : ((added ops).map (·.1)).Nodup) (hnew : ∀ e ∈ added ops, l.documents.get? e.1 = none) :
    (after join setup ops (l, s)).1.Sound setup join (after join setup ops (l, s)).2 ∧
      (after join setup ops (l, s)).1.documents = (l.addAll (added ops)).documents := by
  induction ops generalizing l s with
  | nil => exact ⟨h, rfl⟩
  | cons op ops ih =>
    cases op with
    | add location d =>
      have hcons : added (.add location d :: ops) = (location, d) :: added ops := rfl
      rw [hcons] at hn hnew ⊢
      obtain ⟨hfirst, hrest⟩ := List.nodup_cons.mp hn
      have hsound := h.add (hnew _ List.mem_cons_self) d
      refine ih hsound hrest ?_
      intro e he
      have hne : e.1 ≠ location := fun hel => hfirst (List.mem_map.mpr ⟨e, he, hel⟩)
      show (l.documents.insert location d).get? e.1 = none
      rw [NamedMap.get?_insert, if_neg hne]
      exact hnew e (List.mem_cons_of_mem _ he)
    | load location =>
      have hcons : added (.load location :: ops) = added ops := rfl
      rw [hcons] at hn hnew ⊢
      obtain ⟨hsound, hdocuments⟩ := ih (loadWith_agrees h location).2 hn hnew
      have hl : (l.loadWith join setup location s).2.1.documents = l.documents := rfl
      exact ⟨hsound, hdocuments.trans (documents_addAll_eq hl _)⟩

theorem modules_addAll (l : Loader) (documents : List (Uri × ModuleDecl)) :
    (l.addAll documents).modules = l.modules := by
  induction documents generalizing l with
  | nil => rfl
  | cons e documents ih => exact ih (l.add e.1 e.2)

/-- A load gives the same as on a loader to which the same documents were added and which never
loaded anything: the same module, numbers aside, or the same fault. A load that failed fails again
in the same way and changes nothing in the loader. -/
theorem load_history_free {ops : List Op} (hn : ((added ops).map (·.1)).Nodup) {s s' : Store}
    (hs : s.Ahead) (hs' : s'.Ahead) (setup : Setup) (join : Uri → String → Option Uri)
    (location : Uri) :
    ((after join setup ops (.empty, s)).1.loadWith join setup location
        (after join setup ops (.empty, s)).2).1.map Module.unnumbered =
      ((addAll .empty (added ops)).loadWith join setup location s').1.map Module.unnumbered ∧
    ∀ fault l t, (after join setup ops (.empty, s)).1.loadWith join setup location
        (after join setup ops (.empty, s)).2 = (.error fault, l, t) →
      ∃ t', l.loadWith join setup location t = (.error fault, l, t') := by
  have hempty : empty.Sound setup join s := Loading.Sound.empty hs
  obtain ⟨hsound, hdocuments⟩ := sound_after hempty hn fun _ _ => NamedMap.get?_empty _
  have hfresh : (addAll .empty (added ops)).Sound setup join s' := by
    unfold Sound
    rw [modules_addAll]
    exact Loading.Sound.empty hs'
  refine ⟨?_, ?_⟩
  · rw [(loadWith_agrees hsound location).1, (loadWith_agrees hfresh location).1, hdocuments]
  · intro fault l t h
    exact loadWith_fails_again hsound.ahead h

end Loader

namespace Sample

def libraryUri : Uri := ⟨"file", some ⟨none, "", none⟩, "/library.json".toList, none, none⟩

/-- The catalog is loaded before the library is there, and the library is added afterwards. -/
def lateLibrary : List Loader.Op :=
  [.add catalogUri catalogDecl, .load catalogUri, .add libraryUri libraryDecl]

end Sample

namespace Loader

theorem load_history_free_catalog :
    ((added Sample.lateLibrary).map (·.1)).Nodup ∧
      Store.empty.Ahead ∧
      ((after Uri.join Sample.setup Sample.lateLibrary (.empty, .empty)).1.loadWith Uri.join
          Sample.setup Sample.catalogUri
          (after Uri.join Sample.setup Sample.lateLibrary (.empty, .empty)).2).1.map
            Module.unnumbered =
        ((addAll .empty [(Sample.catalogUri, Sample.catalogDecl),
          (Sample.libraryUri, Sample.libraryDecl)]).loadWith Uri.join Sample.setup
            Sample.catalogUri .empty).1.map Module.unnumbered := by
  have hn : ((added Sample.lateLibrary).map (·.1)).Nodup := by
    show [Sample.catalogUri, Sample.libraryUri].Nodup
    decide
  obtain ⟨hload, -⟩ := load_history_free hn Store.ahead_empty Store.ahead_empty Sample.setup
    Uri.join Sample.catalogUri
  exact ⟨hn, Store.ahead_empty, hload⟩

end Loader

end InfoModel

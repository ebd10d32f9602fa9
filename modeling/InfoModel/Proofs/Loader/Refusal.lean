import InfoModel.Proofs.Loader.Search
import Mathlib.Data.List.Chain

/-!
# Why loading fails

A search along imports fails for one of five reasons, each of which can be pointed at in the
documents below the location where it began: a cycle, no document at that location, an import
without a location, an import without a document, or a module that cannot be built from its imports.
Main statement: `refused_of_foundAt`.
-/

namespace InfoModel

namespace Loading

section
variable (setup : Setup) (join : Uri → String → Option Uri) (documents : Documents)

/-- A cycle below `root`: it ends where it begins, no other location is met twice, and the document
at each location imports the next one. -/
structure Cycle (root : Uri) (chain : List Uri) : Prop where
  closed : ∃ first others, chain = first :: others ++ [first] ∧ (first :: others).Nodup ∧
    Reaches join documents root first
  imports : chain.IsChain (ImportsAt join documents)

structure Prepared (d : ModuleDecl) (u : Uri) (found : List (Uri × Module)) : Prop where
  document : documents.get? u = some d
  located : d.imports.map (join u) = found.map fun e => some e.1
  composed : ∀ e ∈ found, Composed join documents (Declares setup) e.1 e.2

/-- What loading `root` is refused for. -/
inductive Refused (root : Uri) : ModelFault → Prop where
  | cycle {chain : List Uri} (h : Cycle join documents root chain) :
      Refused root (.importCycle (chain.map Uri.text))
  | absent (h : documents.get? root = none) : Refused root (.missingImport root.text loaderName)
  | invalid {u : Uri} {d : ModuleDecl} {href : String} (hr : Reaches join documents root u)
      (hd : documents.get? u = some d) (hh : href ∈ d.imports) (hj : join u href = none) :
      Refused root (.basic (.invalidUri href))
  | missing {u target : Uri} {d : ModuleDecl} {href : String} (hr : Reaches join documents root u)
      (hd : documents.get? u = some d) (hh : href ∈ d.imports) (hj : join u href = some target)
      (ht : documents.get? target = none) : Refused root (.missingImport href d.shortName)
  | building {u : Uri} {d : ModuleDecl} {found : List (Uri × Module)} {e : ModelFault}
      (hr : Reaches join documents root u) (hp : Prepared setup join documents d u found)
      (he : Module.declared setup 0 d (some u) (found.map (·.2)) = .error e) : Refused root e

/-- The locations that are being loaded when `u` is met, on a search that began at `root`. -/
structure Path (root : Uri) (loading : List Uri) (u : Uri) : Prop where
  nodup : loading.Nodup
  imports : (loading ++ [u]).IsChain (ImportsAt join documents)
  reaches : ∀ v ∈ loading ++ [u], Reaches join documents root v

end

variable {setup : Setup} {join : Uri → String → Option Uri} {documents : Documents}
  {root u v : Uri} {loading : List Uri}

theorem Path.start (root : Uri) : Path join documents root [] root := by
  refine ⟨List.nodup_nil, List.isChain_singleton _, ?_⟩
  intro v hv
  rw [List.mem_singleton.mp hv]
  exact Relation.ReflTransGen.refl

theorem Path.here (h : Path join documents root loading u) : Reaches join documents root u :=
  h.reaches u (List.mem_append_right _ List.mem_cons_self)

theorem Path.next (h : Path join documents root loading u) (hu : u ∉ loading)
    (hv : ImportsAt join documents u v) : Path join documents root (loading ++ [u]) v := by
  refine ⟨?_, ?_, ?_⟩
  · rw [List.nodup_append]
    refine ⟨h.nodup, List.nodup_singleton u, ?_⟩
    intro a ha b hb hab
    rw [List.mem_singleton.mp hb] at hab
    exact hu (hab ▸ ha)
  · rw [List.append_assoc]
    show (loading ++ [u, v]).IsChain _
    rw [List.isChain_append_cons_cons]
    exact ⟨h.imports, hv, List.isChain_singleton v⟩
  · intro w hw
    rcases List.mem_append.mp hw with hw | hw
    · exact h.reaches w hw
    · rw [List.mem_singleton.mp hw]
      exact Relation.ReflTransGen.tail h.here hv

theorem dropWhile_ne_of_mem (h : u ∈ loading) :
    ∃ before others, loading = before ++ u :: others ∧
      loading.dropWhile (· ≠ u) = u :: others := by
  induction loading with
  | nil => exact absurd h List.not_mem_nil
  | cons w ws ih =>
    by_cases hw : w = u
    · subst hw
      exact ⟨[], ws, rfl, by simp⟩
    · obtain ⟨before, others, hws, hdrop⟩ := ih ((List.mem_cons.mp h).resolve_left (Ne.symm hw))
      refine ⟨w :: before, others, by rw [hws, List.cons_append], ?_⟩
      rw [List.dropWhile_cons_of_pos (by simpa using hw)]
      exact hdrop

theorem Path.cycle (h : Path join documents root loading u) (hu : u ∈ loading) :
    Cycle join documents root (loading.dropWhile (· ≠ u) ++ [u]) := by
  obtain ⟨before, others, hl, hdrop⟩ := dropWhile_ne_of_mem hu
  rw [hdrop]
  have hn := h.nodup
  have hi := h.imports
  rw [hl] at hn hi
  rw [List.append_assoc] at hi
  exact ⟨⟨u, others, rfl, (List.nodup_append.mp hn).2.1, h.here⟩, hi.right_of_append⟩

theorem of_foundImports_error {find : Uri → Except ModelFault Module} {location : Uri}
    {owner : String} {hrefs : List String} {e : ModelFault}
    (h : foundImports join documents find location owner hrefs = .error e) :
    ∃ href ∈ hrefs, (join location href = none ∧ e = .basic (.invalidUri href)) ∨
      ∃ target, join location href = some target ∧
        ((documents.get? target = none ∧ e = .missingImport href owner) ∨
          (documents.get? target ≠ none ∧ find target = .error e)) := by
  induction hrefs with
  | nil => exact absurd h (by simp [foundImports])
  | cons href hrefs ih =>
    unfold foundImports at h
    split at h
    · rename_i hj
      cases h
      exact ⟨href, List.mem_cons_self, .inl ⟨hj, rfl⟩⟩
    · rename_i target hj
      split at h
      · rename_i hc
        rcases Except.bind_eq_error_iff.mp h with h | ⟨m, -, h⟩
        · refine ⟨href, List.mem_cons_self, .inr ⟨target, hj, .inr ⟨?_, h⟩⟩⟩
          rw [NamedMap.contains_eq_isSome] at hc
          exact Option.isSome_iff_ne_none.mp hc
        · rcases Except.bind_eq_error_iff.mp h with h | ⟨ms, -, h⟩
          · obtain ⟨href', hh, hcase⟩ := ih h
            exact ⟨href', List.mem_cons_of_mem href hh, hcase⟩
          · exact absurd h (by simp [pure, Except.pure])
      · rename_i hc
        cases h
        rw [NamedMap.contains_eq_isSome, Option.not_isSome_iff_eq_none] at hc
        exact ⟨href, List.mem_cons_self, .inr ⟨target, hj, .inl ⟨hc, rfl⟩⟩⟩

theorem refused_on_path (loading : List Uri) (u : Uri) :
    Path join documents root loading u → (documents.get? u = none → u = root) →
      ∀ e, foundAt setup join documents loading u = .error e →
        Refused setup join documents root e := by
  induction loading, u using search_induct documents with
  | step loading u ih =>
    intro hpath hroot e he
    by_cases hu : u ∈ loading
    · rw [foundAt_cycle hu] at he
      cases he
      exact .cycle (hpath.cycle hu)
    · cases hd : documents.get? u with
      | none =>
        rw [foundAt_missing hu hd] at he
        cases he
        have hur := hroot hd
        subst hur
        exact .absent hd
      | some d =>
        rw [foundAt_document hu hd] at he
        rcases Except.bind_eq_error_iff.mp he with he | ⟨ms, hms, he⟩
        · obtain ⟨href, hh, ⟨hj, rfl⟩ | ⟨target, hj, ⟨ht, rfl⟩ | ⟨ht, he⟩⟩⟩ :=
            of_foundImports_error he
          · exact .invalid hpath.here hd hh hj
          · exact .missing hpath.here hd hh hj ht
          · have hi : ImportsAt join documents u target := ⟨d, hd, href, hh, hj⟩
            exact ih d hu hd target (hpath.next hu hi) (fun hn => absurd hn ht) e he
        · obtain ⟨found, hj, rfl, hf⟩ := of_foundImports hms
          have hp : Prepared setup join documents d u found :=
            ⟨hd, hj, fun e he => (foundAt_eq_ok_iff.mp (hf e he)).1⟩
          exact .building hpath.here hp he

/-- Whatever the search from a location is refused for can be pointed at below the location. -/
theorem refused_of_foundAt {e : ModelFault} (h : foundAt setup join documents [] root = .error e) :
    Refused setup join documents root e :=
  refused_on_path [] root (Path.start root) (fun _ => rfl) e h

end Loading

end InfoModel

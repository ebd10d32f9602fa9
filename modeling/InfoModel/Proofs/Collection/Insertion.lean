import InfoModel.Proofs.Collection.View
import Mathlib.Data.Finset.Card

/-!
# Runs of insertions

A dictionary keeps its entries and its index in step: whatever is put into it, one after the other
from the empty dictionary on, every key has one entry, to which the index leads, and the entries
stand in the order in which their keys came first, each with the value that came last. A step gives
back what it replaces and touches no entry but its own. Main statement: `NamedMap.ofList_refines`.
-/

namespace InfoModel

theorem length_eraseDups {α : Type} [DecidableEq α] (as : List α) :
    as.eraseDups.length = as.toFinset.card := by
  have hset : as.eraseDups.toFinset = as.toFinset := by
    ext a
    simp
  rw [← List.toFinset_card_of_nodup (nodup_eraseDups as), hset]

namespace NamedMap
variable {κ ν : Type} [DecidableEq κ] {m : NamedMap κ ν}

theorem index_eq_some_iff (hm : m.keys.Nodup) {k : κ} {i : Nat} :
    m.index k = some i ↔ ∃ v, m.entries[i]? = some (k, v) := by
  have hplace : m.index k = some i ↔ m.keys[i]? = some k := by
    rw [m.index_eq, List.idxOf?_eq_some_iff]
    constructor
    · rintro ⟨hi, hk, -⟩
      exact List.getElem?_eq_some_iff.mpr ⟨hi, hk⟩
    · intro h
      obtain ⟨hi, hk⟩ := List.getElem?_eq_some_iff.mp h
      refine ⟨hi, hk, ?_⟩
      intro j hj hjk
      have hij : j = i := (List.Nodup.getElem_inj_iff hm).mp (hjk.trans hk.symm)
      omega
  rw [hplace]
  unfold keys
  rw [List.getElem?_map, Option.map_eq_some_iff]
  constructor
  · rintro ⟨⟨k, v⟩, he, rfl⟩
    exact ⟨v, he⟩
  · rintro ⟨v, he⟩
    exact ⟨(k, v), he, rfl⟩

theorem index_eq_none_iff {k : κ} : m.index k = none ↔ k ∉ m.keys := by
  rw [m.index_eq, List.idxOf?_eq_none_iff]
  rfl

theorem insert_of_place {k : κ} {i : Nat} (h : m.index k = some i) (v : ν) :
    (m.insert k v).entries = m.entries.set i (k, v) ∧ (m.insert k v).index = m.index := by
  have hentries : (m.insert k v).entries = m.entries.set i (k, v) := by
    rw [entries_insert]
    exact putEntry_of_place (m.index_eq k ▸ h) v
  refine ⟨hentries, funext fun j => ?_⟩
  rw [index_eq, hentries, map_fst_set (m.index_eq k ▸ h), m.index_eq]

theorem insert_of_new {k : κ} (h : m.index k = none) (v : ν) :
    (m.insert k v).entries = m.entries ++ [(k, v)] ∧
      ∀ j, (m.insert k v).index j = if j = k then some m.size else m.index j := by
  have hentries := entries_insert_of_not_mem (index_eq_none_iff.mp h) v
  refine ⟨hentries, fun j => ?_⟩
  rw [index_eq, hentries, List.map_append, List.map_singleton, idxOf?_concat (m.index_eq k ▸ h),
    List.length_map, m.index_eq]
  rfl

theorem getElem?_insert_of_ne {k : κ} {e : κ × ν} (he : e.1 ≠ k) (v : ν) (i : Nat) :
    (m.insert k v).entries[i]? = some e ↔ m.entries[i]? = some e := by
  have hown : (k, v) ≠ e := fun h => he (h ▸ rfl)
  cases hplace : m.index k with
  | some j =>
    rw [(insert_of_place hplace v).1, List.getElem?_set]
    by_cases hij : j = i
    · subst hij
      obtain ⟨hj, hk, -⟩ := List.idxOf?_eq_some_iff.mp (m.index_eq k ▸ hplace)
      rw [List.getElem_map] at hk
      rw [List.length_map] at hj
      have hold : m.entries[j] ≠ e := fun h => he (h ▸ hk)
      rw [if_pos rfl, if_pos hj, List.getElem?_eq_getElem hj, Option.some.injEq, Option.some.injEq]
      exact iff_of_false hown hold
    · rw [if_neg hij]
  | none =>
    rw [(insert_of_new hplace v).1, List.getElem?_append]
    by_cases hi : i < m.entries.length
    · rw [if_pos hi]
    · rw [if_neg hi, List.getElem?_eq_none (Nat.not_lt.mp hi)]
      refine iff_of_false (fun h => hown ?_) nofun
      exact (List.mem_singleton.mp (List.mem_of_getElem? h)).symm

variable {pairs : List (κ × ν)}

/-- The value that was put in last under the key. -/
def lastUnder (pairs : List (κ × ν)) (k : κ) : Option ν :=
  (pairs.findRev? fun p => p.1 = k).map (·.2)

theorem nodup_keys_ofList (pairs : List (κ × ν)) : (ofList pairs).keys.Nodup :=
  keys_ofList pairs ▸ nodup_eraseDups _

theorem mem_keys_ofList {k : κ} : k ∈ (ofList pairs).keys ↔ k ∈ pairs.map (·.1) := by
  rw [keys_ofList, List.mem_eraseDups]

theorem size_ofList (pairs : List (κ × ν)) :
    (ofList pairs).size = (pairs.map (·.1)).toFinset.card := by
  rw [← length_eraseDups, ← keys_ofList]
  exact (List.length_map _).symm

/-- After any pairs are put in, one after the other: no key is repeated; the index leads each key
that was put in to the place of its entry, which is within bounds, and has no other keys; the keys
stand in the order in which they were first put in; looking a key up and asking for it tell of the
value that was put in last under it; and there are as many entries as different keys. Putting in one
more value gives back exactly the value that was there, and leaves every entry with another key as
it is and where it is, and the index of every other key. -/
theorem ofList_refines (pairs : List (κ × ν)) :
    (ofList pairs).keys.Nodup ∧
    (∀ k i, (ofList pairs).index k = some i ↔ ∃ v, (ofList pairs).entries[i]? = some (k, v)) ∧
    (∀ k, (ofList pairs).index k = none ↔ k ∉ pairs.map (·.1)) ∧
    (ofList pairs).keys = (pairs.map (·.1)).eraseDups ∧
    ((ofList pairs).keys.Pairwise fun k k' =>
      (pairs.map (·.1)).idxOf k < (pairs.map (·.1)).idxOf k') ∧
    (∀ k, (ofList pairs).get? k = lastUnder pairs k) ∧
    (∀ k, (ofList pairs).contains k = true ↔ k ∈ pairs.map (·.1)) ∧
    (ofList pairs).size = (pairs.map (·.1)).toFinset.card ∧
    ∀ k v, ((ofList pairs).exchange k v).1 = lastUnder pairs k ∧
      ((ofList pairs).exchange k v).2 = ofList (pairs ++ [(k, v)]) ∧
      (∀ (i : Nat) (e : κ × ν), e.1 ≠ k → (((ofList pairs).exchange k v).2.entries[i]? = some e ↔
        (ofList pairs).entries[i]? = some e)) ∧
      ∀ j, j ≠ k → ((ofList pairs).exchange k v).2.index j = (ofList pairs).index j := by
  refine ⟨nodup_keys_ofList pairs, fun k i => index_eq_some_iff (nodup_keys_ofList pairs), ?_,
    keys_ofList pairs, ?_, get?_ofList pairs, ?_, size_ofList pairs, fun k v => ⟨?_, ?_, ?_, ?_⟩⟩
  · intro k
    rw [index_eq_none_iff, mem_keys_ofList]
  · rw [keys_ofList]
    exact pairwise_idxOf_eraseDups _
  · intro k
    rw [contains_iff, mem_keys_ofList]
  · exact get?_ofList pairs k
  · exact (ofList_concat pairs k v).symm
  · exact fun i e he => getElem?_insert_of_ne he v i
  · intro j hj
    show ((ofList pairs).insert k v).index j = _
    cases hplace : (ofList pairs).index k with
    | some i => rw [(insert_of_place hplace v).2]
    | none => rw [(insert_of_new hplace v).2, if_neg hj]

theorem ofList_refines_replaced :
    ((ofList [(1, "a"), (2, "b")]).exchange 2 "c").1 = some "b" ∧
    ((ofList [(1, "a"), (2, "b")]).exchange 2 "c").2 = ofList [(1, "a"), (2, "b"), (2, "c")] ∧
    ((ofList [(1, "a"), (2, "b")]).exchange 2 "c").2.entries[0]? = some (1, "a") ∧
    ((ofList [(1, "a"), (2, "b")]).exchange 2 "c").2.index 1 = some 0 := by
  obtain ⟨-, hindex, -, -, -, -, -, -, hstep⟩ := ofList_refines [(1, "a"), (2, "b")]
  obtain ⟨hback, hnext, hentries, hplaces⟩ := hstep 2 "c"
  refine ⟨hback.trans (by decide), hnext, (hentries 0 (1, "a") (by decide)).mpr (by decide), ?_⟩
  rw [hplaces 1 (by decide)]
  exact (hindex 1 0).mpr ⟨"a", by decide⟩

end NamedMap

end InfoModel

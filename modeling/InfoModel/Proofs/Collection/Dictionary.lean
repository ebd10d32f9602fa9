import InfoModel.Collection.NamedMap
import Mathlib.Data.List.Nodup

/-!
# Laws of dictionaries in order of insertion

A dictionary is described by its list of keys and by what it gives for a key. Putting in a value
changes the second at one key only, and the first only by a new last key. Main statements:
`get?_insert`, `keys_insert`, and, for any number of values put in one after the other,
`keys_foldl`.
-/

namespace InfoModel

theorem nodup_eraseDups {α : Type} [DecidableEq α] (l : List α) : l.eraseDups.Nodup := by
  -- the recursion is on the tail without the head, which is shorter but not the tail itself
  induction h : l.length using Nat.strongRecOn generalizing l with
  | ind n ih =>
    cases l with
    | nil => exact List.nodup_nil
    | cons a as =>
      rw [List.eraseDups_cons, List.nodup_cons]
      constructor
      · rw [List.mem_eraseDups]
        simp
      · refine ih _ ?_ _ rfl
        have hl := List.length_filter_le (fun b => !b == a) as
        simp only [List.length_cons] at h
        omega

theorem eraseDups_of_nodup {α : Type} [DecidableEq α] {l : List α} (h : l.Nodup) :
    l.eraseDups = l := by
  induction l with
  | nil => rfl
  | cons a as ih =>
    obtain ⟨ha, has⟩ := List.nodup_cons.mp h
    rw [List.eraseDups_cons]
    have hf : as.filter (fun b => !b == a) = as := by
      refine List.filter_eq_self.mpr ?_
      intro b hb
      have hne : b ≠ a := fun he => ha (he ▸ hb)
      simpa using hne
    rw [hf, ih has]

theorem eraseDups_append_of_nodup {α : Type} [DecidableEq α] {as : List α} (h : as.Nodup)
    (bs : List α) : (as ++ bs).eraseDups = as ++ (bs.filter (· ∉ as)).eraseDups := by
  rw [List.eraseDups_append, eraseDups_of_nodup h]
  have hr : bs.removeAll as = bs.filter (· ∉ as) := by
    refine List.filter_congr ?_
    intro b _
    simp
  rw [hr]

theorem eraseDups_eraseDups_append {α : Type} [DecidableEq α] (as bs : List α) :
    (as.eraseDups ++ bs).eraseDups = (as ++ bs).eraseDups := by
  rw [eraseDups_append_of_nodup (nodup_eraseDups as), List.eraseDups_append]
  congr 2
  refine List.filter_congr ?_
  intro b _
  simp

theorem eraseDups_concat {α : Type} [DecidableEq α] {as : List α} (h : as.Nodup) (a : α) :
    (as ++ [a]).eraseDups = if a ∈ as then as else as ++ [a] := by
  rw [eraseDups_append_of_nodup h]
  by_cases ha : a ∈ as
  · simp [ha]
  · simp [ha, List.eraseDups_cons]

namespace NamedMap
variable {κ ν : Type} [DecidableEq κ]

theorem ext {m m' : NamedMap κ ν} (h : m.entries = m'.entries) : m = m' := by
  obtain ⟨es, index, hindex⟩ := m
  obtain ⟨es', index', hindex'⟩ := m'
  obtain rfl : es = es' := h
  obtain rfl : index = index' := funext fun k => (hindex k).trans (hindex' k).symm
  rfl

theorem get?_eq_find? (m : NamedMap κ ν) (k : κ) :
    m.get? k = (m.entries.find? fun e => decide (e.1 = k)).map (·.2) := by
  have hindex : m.index k = m.entries.findIdx? fun e => decide (e.1 = k) := by
    rw [m.index_eq]
    exact List.findIdx?_map
  unfold get?
  rw [hindex, List.find?_eq_bind_findIdx?_getElem?]
  cases m.entries.findIdx? (fun e => decide (e.1 = k)) with
  | none => rfl
  | some i => rfl

theorem isSome_get?_iff {m : NamedMap κ ν} {k : κ} : (m.get? k).isSome ↔ k ∈ m.keys := by
  rw [get?_eq_find?, Option.isSome_map, List.find?_isSome]
  unfold keys
  rw [List.mem_map]
  simp

theorem contains_iff {m : NamedMap κ ν} {k : κ} : m.contains k = true ↔ k ∈ m.keys := by
  unfold contains
  rw [m.index_eq]
  exact List.isSome_idxOf?

theorem contains_eq_isSome (m : NamedMap κ ν) (k : κ) : m.contains k = (m.get? k).isSome := by
  rw [Bool.eq_iff_iff, contains_iff, isSome_get?_iff]

theorem get?_eq_none_iff {m : NamedMap κ ν} {k : κ} : m.get? k = none ↔ k ∉ m.keys := by
  rw [← isSome_get?_iff]
  simp

theorem mem_of_get? {m : NamedMap κ ν} {k : κ} {v : ν} (h : m.get? k = some v) :
    (k, v) ∈ m.entries := by
  rw [get?_eq_find?, Option.map_eq_some_iff] at h
  obtain ⟨e, he, rfl⟩ := h
  have hk := List.find?_some he
  rw [decide_eq_true_iff] at hk
  subst hk
  exact List.mem_of_find?_eq_some he

theorem get?_of_mem {m : NamedMap κ ν} (hm : m.keys.Nodup) {e : κ × ν} (he : e ∈ m.entries) :
    m.get? e.1 = some e.2 := by
  have hfind : ∀ es : List (κ × ν), (es.map (·.1)).Nodup → e ∈ es →
      (es.find? fun f => decide (f.1 = e.1)) = some e := by
    intro es hes he
    induction es with
    | nil => exact absurd he List.not_mem_nil
    | cons f fs ih =>
      obtain ⟨hf, hfs⟩ := List.nodup_cons.mp hes
      rw [List.find?_cons]
      rcases List.mem_cons.mp he with rfl | he
      · simp
      · have hne : f.1 ≠ e.1 := by
          intro h
          exact hf (List.mem_map.mpr ⟨e, he, h.symm⟩)
        simp [hne, ih hfs he]
  rw [get?_eq_find?, hfind m.entries hm he]
  rfl

theorem nodup_keys_empty : (empty : NamedMap κ ν).keys.Nodup := List.nodup_nil

def putEntry (k : κ) (v : ν) : List (κ × ν) → List (κ × ν)
  | [] => [(k, v)]
  | e :: es => if e.1 = k then (k, v) :: es else e :: putEntry k v es

theorem putEntry_of_place {k : κ} {i : Nat} {es : List (κ × ν)}
    (h : (es.map (·.1)).idxOf? k = some i) (v : ν) : putEntry k v es = es.set i (k, v) := by
  induction es generalizing i with
  | nil => cases h
  | cons e es ih =>
    rw [List.map_cons, List.idxOf?_cons] at h
    unfold putEntry
    by_cases he : e.1 = k
    · rw [if_pos (beq_iff_eq.mpr he)] at h
      cases h
      rw [if_pos he]
      rfl
    · rw [if_neg (mt beq_iff_eq.mp he)] at h
      obtain ⟨j, hj, rfl⟩ := Option.map_eq_some_iff.mp h
      rw [if_neg he, ih hj]
      rfl

theorem putEntry_of_not_mem {k : κ} {es : List (κ × ν)} (h : k ∉ es.map (·.1)) (v : ν) :
    putEntry k v es = es ++ [(k, v)] := by
  induction es with
  | nil => rfl
  | cons e es ih =>
    rw [List.map_cons, List.mem_cons, not_or] at h
    unfold putEntry
    rw [if_neg (Ne.symm h.1), ih h.2]
    rfl

theorem entries_insert (m : NamedMap κ ν) (k : κ) (v : ν) :
    (m.insert k v).entries = putEntry k v m.entries := by
  unfold insert
  split
  · next i h => exact (putEntry_of_place (m.index_eq k ▸ h) v).symm
  · next h =>
    rw [m.index_eq, List.idxOf?_eq_none_iff] at h
    exact (putEntry_of_not_mem h v).symm

theorem get?_insert (m : NamedMap κ ν) (k k' : κ) (v : ν) :
    (m.insert k v).get? k' = if k' = k then some v else m.get? k' := by
  rw [get?_eq_find?, get?_eq_find?, entries_insert]
  induction m.entries with
  | nil =>
    unfold putEntry
    by_cases h : k' = k
    · simp [h]
    · simp [h, Ne.symm h]
  | cons e es ih =>
    unfold putEntry
    by_cases he : e.1 = k
    · by_cases h : k' = k
      · simp [he, h]
      · simp [he, h, Ne.symm h]
    · rw [if_neg he, List.find?_cons, List.find?_cons]
      by_cases hk : e.1 = k'
      · have hne : k' ≠ k := fun h => he (hk.trans h)
        simp [hk, hne]
      · simp only [hk, decide_false]
        exact ih

theorem keys_insert (m : NamedMap κ ν) (k : κ) (v : ν) :
    (m.insert k v).keys = if k ∈ m.keys then m.keys else m.keys ++ [k] := by
  by_cases h : k ∈ m.keys
  · obtain ⟨i, hi⟩ := Option.isSome_iff_exists.mp (List.isSome_idxOf?.mpr h)
    unfold keys at h hi ⊢
    rw [if_pos h, entries_insert, putEntry_of_place hi, map_fst_set hi]
  · unfold keys at h ⊢
    rw [if_neg h, entries_insert, putEntry_of_not_mem h, List.map_append]
    rfl

theorem entries_insert_of_not_mem {m : NamedMap κ ν} {k : κ} (h : k ∉ m.keys) (v : ν) :
    (m.insert k v).entries = m.entries ++ [(k, v)] := by
  rw [entries_insert]
  exact putEntry_of_not_mem h v

theorem nodup_keys_insert {m : NamedMap κ ν} (hm : m.keys.Nodup) (k : κ) (v : ν) :
    (m.insert k v).keys.Nodup := by
  rw [keys_insert, ← eraseDups_concat hm]
  exact nodup_eraseDups _

theorem mem_entries_insert {m : NamedMap κ ν} {k : κ} {v : ν} {e : κ × ν}
    (he : e ∈ (m.insert k v).entries) : e = (k, v) ∨ e ∈ m.entries := by
  rw [entries_insert] at he
  generalize m.entries = es at he ⊢
  induction es with
  | nil => exact .inl (List.mem_singleton.mp he)
  | cons f fs ih =>
    unfold putEntry at he
    split at he
    · rcases List.mem_cons.mp he with h | h
      · exact .inl h
      · exact .inr (List.mem_cons_of_mem f h)
    · rcases List.mem_cons.mp he with h | h
      · exact .inr (h ▸ List.mem_cons_self)
      · rcases ih h with h' | h'
        · exact .inl h'
        · exact .inr (List.mem_cons_of_mem f h')

/-- Keys put in one after the other stand in the order of their first occurrence, behind those that
were there before. -/
theorem keys_foldl {α : Type} (key : α → κ) (put : NamedMap κ ν → α → NamedMap κ ν)
    (hput : ∀ m a, (put m a).keys = if key a ∈ m.keys then m.keys else m.keys ++ [key a])
    {m : NamedMap κ ν} (hm : m.keys.Nodup) (as : List α) :
    (as.foldl put m).keys = (m.keys ++ as.map key).eraseDups := by
  induction as generalizing m with
  | nil => simp [eraseDups_of_nodup hm]
  | cons a as ih =>
    have hk : (put m a).keys = (m.keys ++ [key a]).eraseDups := by
      rw [hput, eraseDups_concat hm]
    have hn : (put m a).keys.Nodup := hk ▸ nodup_eraseDups _
    rw [List.foldl_cons, ih hn, hk, eraseDups_eraseDups_append, List.map_cons, List.append_assoc]
    rfl

def mapValues {μ : Type} (f : ν → μ) (m : NamedMap κ ν) : NamedMap κ μ where
  entries := m.entries.map fun e => (e.1, f e.2)
  index := m.index
  index_eq := by
    rw [List.map_map]
    exact m.index_eq

variable {μ : Type} (f : ν → μ)

theorem get?_mapValues (m : NamedMap κ ν) (k : κ) : (m.mapValues f).get? k = (m.get? k).map f := by
  rw [get?_eq_find?, get?_eq_find?]
  unfold mapValues
  rw [List.find?_map, Option.map_map, Option.map_map]
  rfl

theorem mapValues_id (m : NamedMap κ ν) : m.mapValues (fun v => v) = m :=
  ext (List.map_id' m.entries)

theorem values_mapValues (m : NamedMap κ ν) : (m.mapValues f).values = m.values.map f := by
  unfold values mapValues
  rw [List.map_map, List.map_map]
  rfl

theorem contains_mapValues (m : NamedMap κ ν) (k : κ) :
    (m.mapValues f).contains k = m.contains k := rfl

theorem mapValues_insert (m : NamedMap κ ν) (k : κ) (v : ν) :
    (m.insert k v).mapValues f = (m.mapValues f).insert k (f v) := by
  refine ext ?_
  rw [entries_insert]
  show (m.insert k v).entries.map (fun e => (e.1, f e.2)) =
    putEntry k (f v) (m.entries.map fun e => (e.1, f e.2))
  rw [entries_insert]
  induction m.entries with
  | nil => rfl
  | cons e es ih =>
    unfold putEntry
    by_cases he : e.1 = k
    · simp [he]
    · simp [he, ih]

theorem byKey_map {key : ν → κ} {key' : μ → κ} (h : ∀ v, key' (f v) = key v) (vs : List ν) :
    byKey key' (vs.map f) = (byKey key vs).mapValues f := by
  have hfold : ∀ m : NamedMap κ ν,
      ((vs.map f).map fun v => (key' v, v)).foldl (fun m p => m.insert p.1 p.2) (m.mapValues f) =
        ((vs.map fun v => (key v, v)).foldl (fun m p => m.insert p.1 p.2) m).mapValues f := by
    induction vs with
    | nil => exact fun _ => rfl
    | cons v vs ih =>
      intro m
      rw [List.map_cons, List.map_cons, List.map_cons, List.foldl_cons, List.foldl_cons, h,
        ← mapValues_insert]
      exact ih (m.insert (key v) v)
  exact hfold empty

end NamedMap

end InfoModel

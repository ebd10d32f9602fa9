import InfoModel.Collection.SortedMap
import Mathlib.Data.List.Nodup

/-!
# Laws of dictionaries in order of keys

Putting in a value changes what a dictionary gives for one key only, so of several values put in
under one key the last one counts. What is changed keeps the keys in strictly increasing order, and
dictionaries in that order that give the same are the same. Main statements:
`SortedMap.get?_ofList`, `SortedMap.Sorted.alter`, `SortedMap.Sorted.ext`.
-/

namespace InfoModel.SortedMap
variable {κ ν : Type} [Ord κ] [Std.LawfulEqOrd κ]

section
variable [DecidableEq κ]

theorem get?_cons (e : κ × ν) (es : List (κ × ν)) (k : κ) :
    (⟨e :: es⟩ : SortedMap κ ν).get? k =
      if k = e.1 then some e.2 else (⟨es⟩ : SortedMap κ ν).get? k := by
  have hsame : (compare k e.1 == .eq) = decide (k = e.1) := by
    rw [Bool.eq_iff_iff, beq_iff_eq, decide_eq_true_iff]
    exact Std.compare_eq_iff_eq
  unfold get?
  rw [List.find?_cons, hsame]
  by_cases h : k = e.1
  · simp [h]
  · simp [h]

theorem get?_insert (m : SortedMap κ ν) (k k' : κ) (v : ν) :
    (m.insert k v).get? k' = if k' = k then some v else m.get? k' := by
  obtain ⟨es⟩ := m
  induction es with
  | nil => exact get?_cons (k, v) [] k'
  | cons e es ih =>
    obtain ⟨j, w⟩ := e
    have hinsert : ∀ es : List (κ × ν), (⟨es⟩ : SortedMap κ ν).insert k v =
        ⟨alterEntries k (fun _ => v) es⟩ := fun _ => rfl
    rw [hinsert] at ih ⊢
    unfold alterEntries
    cases hc : compare k j with
    | lt => exact get?_cons (k, v) ((j, w) :: es) k'
    | eq =>
      obtain rfl := Std.compare_eq_iff_eq.mp hc
      simp only [get?_cons]
      by_cases h : k' = k
      · rw [if_pos h, if_pos h]
      · rw [if_neg h, if_neg h, if_neg h]
    | gt =>
      have hne : k ≠ j := fun h => by simp [h] at hc
      rw [get?_cons, get?_cons, ih]
      by_cases h : k' = j
      · rw [if_pos h, if_neg (h ▸ Ne.symm hne), if_pos h]
      · rw [if_neg h, if_neg h]

/-- Of several values put in under one key the last one counts. -/
theorem get?_ofList (pairs : List (κ × ν)) (k : κ) :
    (ofList pairs).get? k = (pairs.findRev? fun p => p.1 = k).map (·.2) := by
  rw [List.findRev?_eq_find?_reverse]
  unfold ofList
  rw [← List.foldr_reverse]
  induction pairs.reverse with
  | nil => rfl
  | cons p ps ih =>
    rw [List.foldr_cons, get?_insert, List.find?_cons]
    by_cases h : k = p.1
    · simp [h]
    · simp [h, Ne.symm h, ih]

end

theorem isSome_get?_iff {m : SortedMap κ ν} {k : κ} : (m.get? k).isSome ↔ k ∈ m.keys := by
  have hsame : ∀ j, (compare k j == .eq) = true ↔ j = k := by
    intro j
    rw [beq_iff_eq, Std.compare_eq_iff_eq, eq_comm]
  unfold get? keys
  rw [Option.isSome_map, List.find?_isSome, List.mem_map]
  simp only [hsame]

theorem get?_eq_none_iff {m : SortedMap κ ν} {k : κ} : m.get? k = none ↔ k ∉ m.keys := by
  rw [← isSome_get?_iff]
  simp

omit [Std.LawfulEqOrd κ] in
theorem alter_cons (e : κ × ν) (es : List (κ × ν)) (k : κ) (f : Option ν → ν) :
    (⟨e :: es⟩ : SortedMap κ ν).alter k f = match compare k e.1 with
      | .lt => ⟨(k, f none) :: e :: es⟩
      | .eq => ⟨(e.1, f (some e.2)) :: es⟩
      | .gt => ⟨e :: ((⟨es⟩ : SortedMap κ ν).alter k f).entries⟩ := by
  unfold alter
  rw [alterEntries]
  cases compare k e.1 <;> rfl

theorem mem_keys_alter {m : SortedMap κ ν} {k j : κ} {f : Option ν → ν} :
    j ∈ (m.alter k f).keys ↔ j = k ∨ j ∈ m.keys := by
  obtain ⟨es⟩ := m
  have hkeys : ∀ (e : κ × ν) (es : List (κ × ν)),
      j ∈ (⟨e :: es⟩ : SortedMap κ ν).keys ↔ j = e.1 ∨ j ∈ (⟨es⟩ : SortedMap κ ν).keys :=
    fun e es => List.mem_cons
  induction es with
  | nil => exact hkeys (k, f none) []
  | cons e es ih =>
    rw [alter_cons]
    cases hc : compare k e.1 with
    | lt => exact hkeys (k, f none) (e :: es)
    | eq =>
      rw [Std.compare_eq_iff_eq.mp hc]
      simp only [hkeys, or_self_left]
    | gt =>
      simp only [hkeys, ih]
      exact or_left_comm

def Sorted (m : SortedMap κ ν) : Prop := m.keys.Pairwise fun a b => compare a b = .lt

theorem compare_self_ne_lt (k : κ) : compare k k ≠ .lt := by
  rw [Std.compare_eq_iff_eq.mpr rfl]
  decide

namespace Sorted
variable {m m' : SortedMap κ ν} {e : κ × ν} {es : List (κ × ν)} {k : κ} {f : Option ν → ν}

omit [Std.LawfulEqOrd κ] in
theorem empty : (SortedMap.empty : SortedMap κ ν).Sorted := .nil

omit [Std.LawfulEqOrd κ] in
theorem cons_iff : (⟨e :: es⟩ : SortedMap κ ν).Sorted ↔
    (∀ j ∈ (⟨es⟩ : SortedMap κ ν).keys, compare e.1 j = .lt) ∧ (⟨es⟩ : SortedMap κ ν).Sorted :=
  List.pairwise_cons

theorem not_mem_keys (hm : (⟨e :: es⟩ : SortedMap κ ν).Sorted) :
    e.1 ∉ (⟨es⟩ : SortedMap κ ν).keys :=
  fun hmem => compare_self_ne_lt e.1 ((cons_iff.mp hm).1 e.1 hmem)

theorem mem_entries_iff (hm : m.Sorted) {v : ν} : (k, v) ∈ m.entries ↔ m.get? k = some v := by
  classical
  obtain ⟨es⟩ := m
  induction es with
  | nil => simp [get?]
  | cons e es ih =>
    rw [get?_cons, List.mem_cons, ih (cons_iff.mp hm).2, Prod.ext_iff]
    by_cases h : k = e.1
    · have hrest : (⟨es⟩ : SortedMap κ ν).get? k = none :=
        get?_eq_none_iff.mpr (h ▸ hm.not_mem_keys)
      rw [if_pos h, hrest]
      simp [h, eq_comm]
    · rw [if_neg h]
      simp [h]

variable [Std.TransOrd κ]

theorem alter (hm : m.Sorted) (k : κ) (f : Option ν → ν) : (m.alter k f).Sorted := by
  obtain ⟨es⟩ := m
  induction es with
  | nil => exact List.pairwise_singleton _ _
  | cons e es ih =>
    obtain ⟨hfirst, hes⟩ := cons_iff.mp hm
    rw [alter_cons]
    cases hc : compare k e.1 with
    | lt =>
      refine cons_iff.mpr ⟨?_, hm⟩
      intro j hj
      rcases List.mem_cons.mp hj with rfl | hj
      · exact hc
      · exact Std.TransCmp.lt_trans hc (hfirst j hj)
    | eq => exact cons_iff.mpr ⟨hfirst, hes⟩
    | gt =>
      refine cons_iff.mpr ⟨?_, ih hes⟩
      intro j hj
      rcases mem_keys_alter.mp hj with rfl | hj
      · exact Std.OrientedCmp.gt_iff_lt.mp hc
      · exact hfirst j hj

theorem not_mem_of_lt (hm : (⟨e :: es⟩ : SortedMap κ ν).Sorted) (h : compare k e.1 = .lt) :
    k ∉ (⟨e :: es⟩ : SortedMap κ ν).keys := by
  intro hmem
  rcases List.mem_cons.mp hmem with rfl | hmem
  · exact compare_self_ne_lt _ h
  · exact compare_self_ne_lt k (Std.TransCmp.lt_trans h ((cons_iff.mp hm).1 k hmem))

theorem get?_alter [DecidableEq κ] (hm : m.Sorted) (k k' : κ) (f : Option ν → ν) :
    (m.alter k f).get? k' = if k' = k then some (f (m.get? k)) else m.get? k' := by
  obtain ⟨es⟩ := m
  induction es with
  | nil => exact get?_cons (k, f none) [] k'
  | cons e es ih =>
    rw [alter_cons]
    cases hc : compare k e.1 with
    | lt =>
      rw [get?_eq_none_iff.mpr (hm.not_mem_of_lt hc)]
      exact get?_cons (k, f none) (e :: es) k'
    | eq =>
      obtain rfl := Std.compare_eq_iff_eq.mp hc
      simp only [get?_cons, if_true]
      by_cases h : k' = e.1
      · rw [if_pos h, if_pos h]
      · rw [if_neg h, if_neg h, if_neg h]
    | gt =>
      have hne : k ≠ e.1 := fun h => by simp [h] at hc
      rw [get?_cons, get?_cons, get?_cons, if_neg hne, ih (cons_iff.mp hm).2]
      by_cases h : k' = e.1
      · rw [if_pos h, if_pos h, if_neg (h ▸ Ne.symm hne)]
      · rw [if_neg h, if_neg h]

theorem ext (hm : m.Sorted) (hm' : m'.Sorted) (h : ∀ k, m.get? k = m'.get? k) : m = m' := by
  have hlt : ∀ m : SortedMap κ ν, m.Sorted →
      m.entries.Pairwise fun a b => compare a.1 b.1 = .lt := fun m hm => List.pairwise_map.mp hm
  have hnodup : ∀ m : SortedMap κ ν, m.Sorted → m.entries.Nodup := by
    intro m hm
    refine (hlt m hm).imp ?_
    rintro a b hab rfl
    exact compare_self_ne_lt a.1 hab
  have hmem : ∀ e, e ∈ m.entries ↔ e ∈ m'.entries := by
    rintro ⟨k, v⟩
    rw [hm.mem_entries_iff, hm'.mem_entries_iff, h]
  have hentries : m.entries = m'.entries := by
    refine List.Perm.eq_of_pairwise ?_ (hlt m hm) (hlt m' hm')
      ((List.perm_ext_iff_of_nodup (hnodup m hm) (hnodup m' hm')).mpr hmem)
    intro a b _ _ hab hba
    exact absurd (Std.TransCmp.lt_trans hab hba) (compare_self_ne_lt a.1)
  obtain ⟨es⟩ := m
  obtain ⟨es'⟩ := m'
  exact congrArg SortedMap.mk hentries

end Sorted

end InfoModel.SortedMap

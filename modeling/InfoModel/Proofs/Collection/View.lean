import InfoModel.Proofs.Collection.Dictionary
import Mathlib.Data.List.Induction

/-!
# Views by name

A view by name of a list of values has each of their names once, in the order of the first value
with the name, and means by a name the last value with it. A search through the view finds, of the
values that are the last with their names, the one whose name comes first. Main statements:
`NamedMap.views_byKey`, `NamedMap.Views.find?_values_eq_some_iff`.
-/

namespace InfoModel

section
variable {α : Type} [DecidableEq α]

theorem eraseDups_append_singleton (as : List α) (a : α) :
    (as ++ [a]).eraseDups = if a ∈ as then as.eraseDups else as.eraseDups ++ [a] := by
  rw [← eraseDups_eraseDups_append, eraseDups_concat (nodup_eraseDups as)]
  simp only [List.mem_eraseDups]

theorem pairwise_idxOf_eraseDups (as : List α) :
    as.eraseDups.Pairwise fun a b => as.idxOf a < as.idxOf b := by
  induction as using List.reverseRecOn with
  | nil => exact .nil
  | append_singleton as c ih =>
    -- a later value moves no first occurrence
    have hmem : ∀ a ∈ as.eraseDups, (as ++ [c]).idxOf a = as.idxOf a := by
      intro a ha
      rw [List.idxOf_append, if_pos (List.mem_eraseDups.mp ha)]
    have hold : as.eraseDups.Pairwise fun a b => (as ++ [c]).idxOf a < (as ++ [c]).idxOf b := by
      refine ih.imp_of_mem ?_
      intro a b ha hb hab
      rwa [hmem a ha, hmem b hb]
    rw [eraseDups_append_singleton]
    by_cases hc : c ∈ as
    · rwa [if_pos hc]
    · rw [if_neg hc, List.pairwise_append]
      refine ⟨hold, List.pairwise_singleton _ _, ?_⟩
      intro a ha b hb
      have hlt := List.idxOf_lt_length_of_mem (List.mem_eraseDups.mp ha)
      rw [hmem a ha, List.mem_singleton.mp hb, List.idxOf_append, if_neg hc]
      omega

end

theorem find?_eq_some_iff_of_pairwise {α : Type} {p : α → Bool} {f : α → Nat} {as : List α}
    (h : as.Pairwise fun a b => f a < f b) {a : α} :
    as.find? p = some a ↔ a ∈ as ∧ p a = true ∧ ∀ b ∈ as, p b = true → f a ≤ f b := by
  induction h with
  | nil => simp
  | @cons c cs hc _ ih =>
    by_cases hp : p c = true
    · rw [List.find?_cons_of_pos hp, Option.some.injEq]
      constructor
      · rintro rfl
        refine ⟨List.mem_cons_self, hp, List.forall_mem_cons.mpr ⟨fun _ => Nat.le_refl _, ?_⟩⟩
        exact fun b hb _ => Nat.le_of_lt (hc b hb)
      · rintro ⟨ha, -, hleast⟩
        rcases List.mem_cons.mp ha with rfl | ha
        · rfl
        · have hle := hleast c List.mem_cons_self hp
          have hlt := hc a ha
          omega
    · rw [List.find?_cons_of_neg hp, ih]
      constructor
      · rintro ⟨ha, hpa, hleast⟩
        exact ⟨List.mem_cons_of_mem c ha, hpa,
          List.forall_mem_cons.mpr ⟨fun hpc => absurd hpc hp, hleast⟩⟩
      · rintro ⟨ha, hpa, hleast⟩
        rcases List.mem_cons.mp ha with rfl | ha
        · exact absurd hpa hp
        · exact ⟨ha, hpa, fun b hb => hleast b (List.mem_cons_of_mem c hb)⟩

section
variable {κ ν : Type} {key : ν → κ} {vs : List ν} {v : ν}

/-- The value stands among the others, and none behind it has its name. -/
def IsLast (key : ν → κ) (vs : List ν) (v : ν) : Prop :=
  ∃ before after, vs = before ++ v :: after ∧ key v ∉ after.map key

theorem IsLast.mem (h : IsLast key vs v) : v ∈ vs := by
  obtain ⟨before, after, rfl, -⟩ := h
  simp

theorem isLast_of_nodup (h : (vs.map key).Nodup) (hv : v ∈ vs) : IsLast key vs v := by
  obtain ⟨before, after, rfl⟩ := List.append_of_mem hv
  refine ⟨before, after, rfl, ?_⟩
  rw [List.map_append, List.map_cons, List.nodup_append] at h
  exact (List.nodup_cons.mp h.2.1).1

theorem findRev?_eq_some_iff [DecidableEq κ] {k : κ} :
    (vs.findRev? fun w => key w = k) = some v ↔ key v = k ∧ IsLast key vs v := by
  rw [List.findRev?_eq_find?_reverse, List.find?_eq_some_iff_append, decide_eq_true_iff]
  constructor
  · rintro ⟨rfl, front, back, hvs, hfront⟩
    refine ⟨rfl, back.reverse, front.reverse, ?_, ?_⟩
    · rw [← List.reverse_reverse vs, hvs]
      simp
    · intro h
      obtain ⟨w, hw, hk⟩ := List.mem_map.mp h
      have hne := hfront w (List.mem_reverse.mp hw)
      simp [hk] at hne
  · rintro ⟨rfl, before, after, rfl, hafter⟩
    refine ⟨rfl, after.reverse, before.reverse, by simp, ?_⟩
    intro w hw
    have hne : key w ≠ key v := fun h =>
      hafter (List.mem_map.mpr ⟨w, List.mem_reverse.mp hw, h⟩)
    simpa using hne

end

namespace NamedMap
variable {κ ν : Type} [DecidableEq κ] {key : ν → κ} {vs : List ν} {v : ν}

/-- The dictionary is the view of the values by name. -/
structure Views (m : NamedMap κ ν) (key : ν → κ) (vs : List ν) : Prop where
  keys : m.keys = (vs.map key).eraseDups
  nodup : m.keys.Nodup
  last : ∀ k, m.get? k = vs.findRev? fun v => key v = k

theorem ofList_concat (pairs : List (κ × ν)) (k : κ) (v : ν) :
    ofList (pairs ++ [(k, v)]) = (ofList pairs).insert k v := by
  unfold ofList
  rw [List.foldl_append]
  rfl

theorem keys_ofList (pairs : List (κ × ν)) :
    (ofList pairs).keys = (pairs.map (·.1)).eraseDups :=
  keys_foldl Prod.fst (fun m (p : κ × ν) => m.insert p.1 p.2)
    (fun m p => keys_insert m p.1 p.2) nodup_keys_empty pairs

theorem get?_ofList (pairs : List (κ × ν)) (k : κ) :
    (ofList pairs).get? k = (pairs.findRev? fun p => p.1 = k).map (·.2) := by
  induction pairs using List.reverseRecOn with
  | nil => rfl
  | append_singleton pairs p ih =>
    rw [ofList_concat, get?_insert, ih, List.findRev?_eq_find?_reverse,
      List.findRev?_eq_find?_reverse, List.reverse_append, List.reverse_singleton,
      List.singleton_append, List.find?_cons]
    by_cases hk : k = p.1
    · simp [hk]
    · simp [hk, Ne.symm hk]

theorem keys_byKey (key : ν → κ) (vs : List ν) : (byKey key vs).keys = (vs.map key).eraseDups := by
  unfold byKey
  rw [keys_ofList, List.map_map]
  rfl

theorem get?_byKey (key : ν → κ) (vs : List ν) (k : κ) :
    (byKey key vs).get? k = vs.findRev? fun v => key v = k := by
  unfold byKey
  rw [get?_ofList, List.findRev?_eq_find?_reverse, List.findRev?_eq_find?_reverse,
    ← List.map_reverse, List.find?_map, Option.map_map]
  exact Option.map_id'

theorem views_byKey (key : ν → κ) (vs : List ν) : (byKey key vs).Views key vs :=
  ⟨keys_byKey key vs, keys_byKey key vs ▸ nodup_eraseDups _, get?_byKey key vs⟩

theorem size_byKey (key : ν → κ) (vs : List ν) :
    (byKey key vs).size = (vs.map key).eraseDups.length := by
  rw [← keys_byKey]
  exact (List.length_map _).symm

namespace Views
variable {m : NamedMap κ ν}

theorem entry (h : m.Views key vs) {e : κ × ν} (he : e ∈ m.entries) :
    e.1 = key e.2 ∧ IsLast key vs e.2 := by
  have hg := get?_of_mem h.nodup he
  rw [h.last] at hg
  obtain ⟨hk, hl⟩ := findRev?_eq_some_iff.mp hg
  exact ⟨hk.symm, hl⟩

theorem mem_values_iff (h : m.Views key vs) : v ∈ m.values ↔ IsLast key vs v := by
  constructor
  · intro hv
    obtain ⟨e, he, rfl⟩ := List.mem_map.mp hv
    exact (h.entry he).2
  · intro hl
    have hg : m.get? (key v) = some v := (h.last _).trans (findRev?_eq_some_iff.mpr ⟨rfl, hl⟩)
    exact List.mem_map.mpr ⟨_, mem_of_get? hg, rfl⟩

theorem map_values (h : m.Views key vs) : m.values.map key = (vs.map key).eraseDups := by
  rw [← h.keys]
  unfold values NamedMap.keys
  rw [List.map_map]
  exact List.map_congr_left fun e he => (h.entry he).1.symm

/-- Of the last values with their names a search finds the one whose name comes first. -/
theorem find?_values_eq_some_iff (h : m.Views key vs) {p : ν → Bool} :
    m.values.find? p = some v ↔ IsLast key vs v ∧ p v = true ∧
      ∀ w, IsLast key vs w → p w = true →
        (vs.map key).idxOf (key v) ≤ (vs.map key).idxOf (key w) := by
  have hsorted : m.values.Pairwise fun v w =>
      (vs.map key).idxOf (key v) < (vs.map key).idxOf (key w) := by
    have hnames : (m.values.map key).Pairwise fun k k' =>
        (vs.map key).idxOf k < (vs.map key).idxOf k' := by
      rw [h.map_values]
      exact pairwise_idxOf_eraseDups _
    rwa [List.pairwise_map] at hnames
  rw [find?_eq_some_iff_of_pairwise hsorted]
  simp only [h.mem_values_iff]

end Views

end NamedMap

section
variable {κ ν : Type} [DecidableEq κ]

def repeats (key : ν → κ) (vs : List ν) : List ν :=
  (vs.zipIdx.filter fun (v, n) => key v ∈ (vs.take n).map key).map Prod.fst

theorem repeats_append_singleton (key : ν → κ) (vs : List ν) (v : ν) :
    repeats key (vs ++ [v]) = repeats key vs ++ if key v ∈ vs.map key then [v] else [] := by
  have hold : (vs.zipIdx.filter fun (w, n) => key w ∈ ((vs ++ [v]).take n).map key) =
      vs.zipIdx.filter fun (w, n) => key w ∈ (vs.take n).map key := by
    refine List.filter_congr ?_
    rintro ⟨w, n⟩ hw
    have hn : n ≤ vs.length := by
      have hlt := (List.mem_zipIdx hw).2.1
      omega
    dsimp only
    rw [List.take_append_of_le_length hn]
  unfold repeats
  rw [List.zipIdx_append, List.filter_append, hold, List.map_append]
  congr 1
  by_cases hv : key v ∈ vs.map key
  · simp [hv]
  · simp [hv]

end

end InfoModel

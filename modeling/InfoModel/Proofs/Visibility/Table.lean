import InfoModel.Model.Visibility
import InfoModel.Proofs.Module.Graph

/-!
# Tables of exported definitions

A table of exports is made in two ways of putting in: what an import exports never takes a place
that is taken, what the module shares itself always does. Both keep the order of first occurrence.
Main statements: `exported?_eq` says what a module exports under a name, `keys_exports` in which
order.
-/

namespace InfoModel

namespace Module

theorem get?_inherit {κ ν : Type} [DecidableEq κ] (into table : NamedMap κ ν) (k : κ) :
    (inherit into table).get? k = (into.get? k).or (table.get? k) := by
  rw [table.get?_eq_find?]
  unfold inherit
  induction table.entries generalizing into with
  | nil => simp
  | cons e es ih =>
    have hfind : ((e :: es).find? fun f => decide (f.1 = k)).map (·.2) =
        if e.1 = k then some e.2 else (es.find? fun f => decide (f.1 = k)).map (·.2) := by
      rw [List.find?_cons]
      by_cases he : e.1 = k
      · simp [he]
      · simp [he]
    rw [List.foldl_cons, ih, hfind]
    by_cases hc : into.contains e.1 = true
    · rw [if_pos hc]
      by_cases he : e.1 = k
      · subst he
        rw [NamedMap.contains_eq_isSome, Option.isSome_iff_exists] at hc
        obtain ⟨v, hv⟩ := hc
        rw [hv]
        rfl
      · rw [if_neg he]
    · rw [if_neg hc, NamedMap.get?_insert]
      by_cases he : e.1 = k
      · subst he
        rw [NamedMap.contains_eq_isSome, Option.not_isSome_iff_eq_none] at hc
        rw [if_pos rfl, if_pos rfl, hc]
        rfl
      · rw [if_neg he, if_neg (Ne.symm he)]

theorem keys_inherit {κ ν : Type} [DecidableEq κ] {into : NamedMap κ ν} (h : into.keys.Nodup)
    (table : NamedMap κ ν) :
    (inherit into table).keys = (into.keys ++ table.keys).eraseDups := by
  refine NamedMap.keys_foldl (·.1) _ ?_ h table.entries
  intro m e
  by_cases hc : e.1 ∈ m.keys
  · rw [if_pos (NamedMap.contains_iff.mpr hc), if_pos hc]
  · have hn : ¬ m.contains e.1 = true := fun hm => hc (NamedMap.contains_iff.mp hm)
    rw [if_neg hn, NamedMap.keys_insert]

theorem mem_inherit {κ ν : Type} [DecidableEq κ] {into table : NamedMap κ ν} {e : κ × ν}
    (h : e ∈ (inherit into table).entries) : e ∈ into.entries ∨ e ∈ table.entries := by
  unfold inherit at h
  generalize table.entries = es at h ⊢
  induction es generalizing into with
  | nil => exact .inl h
  | cons f fs ih =>
    rw [List.foldl_cons] at h
    rcases ih h with h | h
    · split at h
      · exact .inl h
      · rcases NamedMap.mem_entries_insert h with rfl | h
        · exact .inr List.mem_cons_self
        · exact .inl h
    · exact .inr (List.mem_cons_of_mem f h)

variable {k : Kind}

theorem publish_eq_foldl (into : NamedMap QName (Placed k)) (ds : List (Placed k)) :
    (publish into ds).1 = ds.foldl (fun m d => m.insert d.name d) into := by
  induction ds generalizing into with
  | nil => rfl
  | cons d ds ih => exact ih (into.insert d.name d)

theorem keys_publish {into : NamedMap QName (Placed k)} (h : into.keys.Nodup)
    (ds : List (Placed k)) :
    (publish into ds).1.keys = (into.keys ++ ds.map Placed.name).eraseDups := by
  rw [publish_eq_foldl]
  exact NamedMap.keys_foldl Placed.name _ (fun m d => NamedMap.keys_insert m d.name d) h ds

theorem find?_eq_none_of_not_mem {ds : List (Placed k)} {name : QName}
    (h : name ∉ ds.map Placed.name) : ds.find? (·.name = name) = none := by
  rw [List.find?_eq_none]
  intro d hd hn
  exact h (List.mem_map.mpr ⟨d, hd, of_decide_eq_true hn⟩)

theorem get?_publish (into : NamedMap QName (Placed k)) {ds : List (Placed k)}
    (h : (ds.map Placed.name).Nodup) (name : QName) :
    (publish into ds).1.get? name = (ds.find? (·.name = name)).or (into.get? name) := by
  induction ds generalizing into with
  | nil => rfl
  | cons d ds ih =>
    obtain ⟨hd, hds⟩ := List.nodup_cons.mp h
    show (publish (into.insert d.name d) ds).1.get? name = _
    rw [ih _ hds, NamedMap.get?_insert, List.find?_cons]
    by_cases hn : d.name = name
    · -- no later definition has the name, so `d` stays where it was put
      rw [find?_eq_none_of_not_mem (hn ▸ hd), if_pos hn.symm]
      simp [hn]
    · rw [if_neg (Ne.symm hn)]
      simp [hn]

theorem snd_publish (into : NamedMap QName (Placed k)) {ds : List (Placed k)}
    (h : (ds.map Placed.name).Nodup) :
    (publish into ds).2 = ds.filter fun d => d.name ∈ into.keys := by
  induction ds generalizing into with
  | nil => rfl
  | cons d ds ih =>
    obtain ⟨hd, hds⟩ := List.nodup_cons.mp h
    have hr : (publish (into.insert d.name d) ds).2 = ds.filter fun e => e.name ∈ into.keys := by
      rw [ih _ hds]
      refine List.filter_congr ?_
      intro e he
      have hne : e.name ≠ d.name := fun hn => hd (hn ▸ List.mem_map_of_mem he)
      rw [NamedMap.keys_insert]
      by_cases hk : d.name ∈ into.keys
      · rw [if_pos hk]
      · rw [if_neg hk]
        simp [hne]
    have hs : (into.get? d.name).isSome = decide (d.name ∈ into.keys) := by
      rw [Bool.eq_iff_iff, NamedMap.isSome_get?_iff, decide_eq_true_iff]
    show (if (into.get? d.name).isSome then d :: (publish (into.insert d.name d) ds).2
      else (publish (into.insert d.name d) ds).2) = _
    rw [hr, hs, List.filter_cons]

theorem mem_publish {into : NamedMap QName (Placed k)} {ds : List (Placed k)}
    {e : QName × Placed k} (h : e ∈ (publish into ds).1.entries) :
    e ∈ into.entries ∨ e.2 ∈ ds ∧ e.1 = e.2.name := by
  induction ds generalizing into with
  | nil => exact .inl h
  | cons d ds ih =>
    have h' : e ∈ (publish (into.insert d.name d) ds).1.entries := h
    rcases ih h' with h | ⟨h, hn⟩
    · rcases NamedMap.mem_entries_insert h with rfl | h
      · exact .inr ⟨List.mem_cons_self, rfl⟩
      · exact .inl h
    · exact .inr ⟨List.mem_cons_of_mem d h, hn⟩

theorem exports_eq (k : Kind) (m : Module) :
    exports k m = (publish (exportsOf k m.imports .empty) (m.shared k)).1 := by
  cases m with
  | mk info imports => rfl

theorem keys_exportsOf {table : NamedMap QName (Placed k)} (h : table.keys.Nodup)
    (ms : List Module) :
    (exportsOf k ms table).keys =
      (table.keys ++ ms.flatMap fun i => (exports k i).keys).eraseDups := by
  induction ms generalizing table with
  | nil => simp [exportsOf, eraseDups_of_nodup h]
  | cons m ms ih =>
    have hk := keys_inherit h (exports k m)
    have hn : (inherit table (exports k m)).keys.Nodup := hk ▸ nodup_eraseDups _
    show (exportsOf k ms (inherit table (exports k m))).keys = _
    rw [ih hn, hk, eraseDups_eraseDups_append, List.flatMap_cons, List.append_assoc]

theorem nodup_keys_exportsOf (k : Kind) (ms : List Module) :
    (exportsOf k ms .empty).keys.Nodup := by
  rw [keys_exportsOf NamedMap.nodup_keys_empty]
  exact nodup_eraseDups _

theorem keys_exports (k : Kind) (m : Module) :
    (exports k m).keys =
      ((m.imports.flatMap fun i => (exports k i).keys) ++
        (m.shared k).map Placed.name).eraseDups := by
  rw [exports_eq, keys_publish (nodup_keys_exportsOf k m.imports),
    keys_exportsOf NamedMap.nodup_keys_empty, eraseDups_eraseDups_append]
  rfl

theorem nodup_keys_exports (k : Kind) (m : Module) : (exports k m).keys.Nodup := by
  rw [keys_exports]
  exact nodup_eraseDups _

theorem get?_exportsOf (table : NamedMap QName (Placed k)) (ms : List Module) (name : QName) :
    (exportsOf k ms table).get? name = (table.get? name).or (ms.findSome? (exported? k name)) := by
  induction ms generalizing table with
  | nil => simp [exportsOf]
  | cons m ms ih =>
    show (exportsOf k ms (inherit table (exports k m))).get? name = _
    rw [ih, get?_inherit, List.findSome?_cons, Option.or_assoc]
    congr 1
    show ((exports k m).get? name).or _ = _
    unfold exported?
    cases (exports k m).get? name with
    | none => rfl
    | some d => rfl

theorem mem_exportsOf {table : NamedMap QName (Placed k)} {ms : List Module}
    {e : QName × Placed k} (h : e ∈ (exportsOf k ms table).entries) :
    e ∈ table.entries ∨ ∃ i ∈ ms, e ∈ (exports k i).entries := by
  induction ms generalizing table with
  | nil => exact .inl h
  | cons m ms ih =>
    have h' : e ∈ (exportsOf k ms (inherit table (exports k m))).entries := h
    rcases ih h' with h | ⟨i, hi, h⟩
    · rcases mem_inherit h with h | h
      · exact .inl h
      · exact .inr ⟨m, List.mem_cons_self, h⟩
    · exact .inr ⟨i, List.mem_cons_of_mem m hi, h⟩

theorem name_of_mem_exports (k : Kind) (m : Module) :
    ∀ e ∈ (exports k m).entries, e.1 = e.2.name := by
  refine induct (P := fun m => ∀ e ∈ (exports k m).entries, e.1 = e.2.name) ?_ m
  intro m ih e h
  rw [exports_eq] at h
  rcases mem_publish h with h | ⟨-, hn⟩
  · rcases mem_exportsOf h with h | ⟨i, hi, h⟩
    · exact absurd h List.not_mem_nil
    · exact ih i hi e h
  · exact hn

theorem mem_shared_iff {m : Module} {d : Placed k} :
    d ∈ m.shared k ↔ d ∈ m.own k ∧ d.head.scope = .shared := by
  unfold shared
  rw [List.mem_filter, decide_eq_true_iff]

theorem Built.nodup_sharedNames {m : Module} (h : m.Built) (k : Kind) :
    ((m.shared k).map Placed.name).Nodup := by
  refine List.Nodup.sublist ?_ (h.nodup_ownNames k)
  exact List.filter_sublist.map _

/-- A module exports under a name its own shared definition of that name, or else what the first of
its imports to export the name exports under it. -/
theorem Built.exported?_eq {m : Module} (h : m.Built) (name : QName) :
    exported? k name m =
      ((m.shared k).find? (·.name = name)).or (m.imports.findSome? (exported? k name)) := by
  unfold exported?
  rw [exports_eq, get?_publish _ (h.nodup_sharedNames k), get?_exportsOf]
  rfl

end Module

end InfoModel

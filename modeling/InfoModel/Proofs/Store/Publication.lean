import InfoModel.Proofs.Store.Law

/-!
# Tables of exports are made once

Whatever is asked of the store, the tables that are made on the way were not there before, none is
made twice, and shadowing is noticed exactly where a table is made. `Store.Makes` says so of the way
from one store to another; ways are put together by `Makes.trans`. Main statements:
`Store.makes_consult_first` for a table, `Store.law_leads` for everything else.
-/

namespace InfoModel

namespace Store

/-- On the way from `s` to `t` the tables of the modules in `made` were made, in this order. None of
them was there before, none was made twice, and shadowing was noticed with these tables only. -/
structure Makes (s t : Store) (made : List Module) : Prop where
  published : t.published = (made.map Module.id).reverse ++ s.published
  new : ∀ m ∈ made, m.id ∉ s.published
  once : (made.map Module.id).Nodup
  noticed : ∃ log, t.journal = s.journal ++ log ∧
    log.filter Event.isShadowing = made.flatMap Module.shadowings
  numbers : s.nextId ≤ t.nextId

def Leads (s t : Store) : Prop := ∃ made, s.Makes t made

variable {s t u : Store}

theorem Makes.of_quiet {log : List Event} (hp : t.published = s.published)
    (hj : t.journal = s.journal ++ log) (hl : ∀ e ∈ log, e.isShadowing = false)
    (hn : s.nextId ≤ t.nextId) : s.Makes t [] := by
  refine ⟨hp, ?_, List.nodup_nil, ⟨log, hj, ?_⟩, hn⟩
  · intro m hm
    exact absurd hm List.not_mem_nil
  · rw [List.filter_eq_nil_iff.mpr]
    · rfl
    · intro e he
      rw [hl e he]
      exact Bool.false_ne_true

theorem Makes.of_silent (hp : t.published = s.published) (hj : t.journal = s.journal)
    (hn : s.nextId ≤ t.nextId) : s.Makes t [] := by
  have hj' : t.journal = s.journal ++ [] := by rw [hj, List.append_nil]
  exact Makes.of_quiet hp hj' (fun e he => absurd he List.not_mem_nil) hn

theorem Makes.refl (s : Store) : s.Makes s [] := Makes.of_silent rfl rfl (Nat.le_refl _)

theorem Makes.trans {made more : List Module} (h₁ : s.Makes t made) (h₂ : t.Makes u more) :
    s.Makes u (made ++ more) := by
  have hnew : ∀ m ∈ more, m.id ∉ made.map Module.id ∧ m.id ∉ s.published := by
    intro m hm
    have h := h₂.new m hm
    rw [h₁.published, List.mem_append, List.mem_reverse, not_or] at h
    exact h
  refine ⟨?_, ?_, ?_, ?_, Nat.le_trans h₁.numbers h₂.numbers⟩
  · rw [h₂.published, h₁.published, List.map_append, List.reverse_append, List.append_assoc]
  · intro m hm
    rcases List.mem_append.mp hm with hm | hm
    · exact h₁.new m hm
    · exact (hnew m hm).2
  · rw [List.map_append]
    refine h₁.once.append h₂.once ?_
    intro n hn hn'
    obtain ⟨m, hm, rfl⟩ := List.mem_map.mp hn'
    exact (hnew m hm).1 hn
  · obtain ⟨log, hj, hl⟩ := h₁.noticed
    obtain ⟨log', hj', hl'⟩ := h₂.noticed
    refine ⟨log ++ log', ?_, ?_⟩
    · rw [hj', hj, List.append_assoc]
    · rw [List.filter_append, hl, hl', List.flatMap_append]

theorem Leads.refl (s : Store) : s.Leads s := ⟨[], Makes.refl s⟩

theorem Leads.trans (h₁ : s.Leads t) (h₂ : t.Leads u) : s.Leads u := by
  obtain ⟨made, h₁⟩ := h₁
  obtain ⟨more, h₂⟩ := h₂
  exact ⟨made ++ more, h₁.trans h₂⟩

theorem Leads.numbers (h : s.Leads t) : s.nextId ≤ t.nextId := by
  obtain ⟨made, h⟩ := h
  exact Makes.numbers h

theorem makes_note {e : Event} (he : e.isShadowing = false) (s : Store) :
    s.Makes (s.note [e]) [] := by
  have hj : (s.note [e]).journal = s.journal ++ [e] := rfl
  refine Makes.of_quiet rfl hj ?_ (Nat.le_refl _)
  intro e' h
  rw [List.mem_singleton.mp h]
  exact he

theorem makes_settle (s : Store) (slot : Slot) (fate : Fate) : s.Makes (s.settle slot fate) [] :=
  Makes.of_silent rfl rfl (Nat.le_refl _)

theorem leads_note {e : Event} (he : e.isShadowing = false) (s : Store) : s.Leads (s.note [e]) :=
  ⟨[], makes_note he s⟩

theorem consult_of_published {m : Module} (h : m.id ∈ s.published) : s.consult m = s := by
  obtain ⟨info, imports⟩ := m
  have hc : s.published.contains info.id = true := List.contains_iff_mem.mpr h
  rw [consult, if_pos hc]

theorem consult_of_not_published {m : Module} (h : m.id ∉ s.published) :
    s.consult m = { s.consultAll m.imports with
      published := m.id :: (s.consultAll m.imports).published
      journal := (s.consultAll m.imports).journal ++ m.shadowings } := by
  obtain ⟨info, imports⟩ := m
  have hn : ¬ s.published.contains info.id = true := fun hc => h (List.contains_iff_mem.mp hc)
  rw [consult, if_neg hn]
  -- making the tables of the imports touches neither of the other fields
  rfl

theorem filter_shadowings (m : Module) : m.shadowings.filter Event.isShadowing = m.shadowings := by
  rw [List.filter_eq_self]
  intro e he
  unfold Module.shadowings at he
  split at he
  · obtain ⟨k, -, he⟩ := List.mem_flatMap.mp he
    obtain ⟨d, -, rfl⟩ := List.mem_map.mp he
    rfl
  · exact absurd he List.not_mem_nil

theorem makes_consultAll {P : Module → Prop} {ms : List Module}
    (h : ∀ i ∈ ms, ∀ s : Store, ∃ made, s.Makes (s.consult i) made ∧ ∀ b ∈ made, P b) (s : Store) :
    ∃ made, s.Makes (s.consultAll ms) made ∧ ∀ b ∈ made, P b := by
  induction ms generalizing s with
  | nil => exact ⟨[], Makes.refl s, fun b hb => absurd hb List.not_mem_nil⟩
  | cons i is ih =>
    obtain ⟨made, hmade, hp⟩ := h i List.mem_cons_self s
    obtain ⟨more, hmore, hp'⟩ := ih (fun j hj => h j (List.mem_cons_of_mem i hj)) (s.consult i)
    refine ⟨made ++ more, hmade.trans hmore, ?_⟩
    intro b hb
    rcases List.mem_append.mp hb with hb | hb
    · exact hp b hb
    · exact hp' b hb

/-- When a table is made that was not there, those below that are missing are made first, and then
itself, if each of the imports makes only its own table and tables below it. -/
theorem makes_missing {m : Module} (h : m.Built) (hn : m.id ∉ s.published)
    (himports : ∀ i ∈ m.imports, ∀ s : Store,
      ∃ made, s.Makes (s.consult i) made ∧ ∀ b ∈ made, b = i ∨ i.Below b) :
    ∃ before, s.Makes (s.consult m) (before ++ [m]) ∧ ∀ b ∈ before, m.Below b := by
  have hall : ∀ i ∈ m.imports, ∀ s : Store,
      ∃ made, s.Makes (s.consult i) made ∧ ∀ b ∈ made, m.Below b := by
    intro i hi s
    obtain ⟨made, hmade, hb⟩ := himports i hi s
    refine ⟨made, hmade, fun b hbm => ?_⟩
    rcases hb b hbm with rfl | hb
    · exact Module.below_of_mem hi
    · exact hb.of_import hi
  obtain ⟨before, hbefore, hb⟩ := makes_consultAll hall s
  refine ⟨before, hbefore.trans ?_, hb⟩
  rw [consult_of_not_published hn]
  refine ⟨rfl, ?_, List.nodup_singleton _, ⟨m.shadowings, rfl, ?_⟩, Nat.le_refl _⟩
  · intro m' hm'
    rw [List.mem_singleton.mp hm', hbefore.published, List.mem_append, List.mem_reverse, not_or]
    refine ⟨?_, hn⟩
    -- what is below was put together before, so it has another number
    intro hm
    obtain ⟨b, hbm, hid⟩ := List.mem_map.mp hm
    have := h.id_lt_of_below (hb b hbm)
    omega
  · rw [filter_shadowings, List.flatMap_cons, List.flatMap_nil, List.append_nil]

theorem makes_consult {m : Module} (h : m.Built) (s : Store) :
    ∃ made, s.Makes (s.consult m) made ∧ ∀ b ∈ made, b = m ∨ m.Below b := by
  induction m using Module.induct generalizing s with
  | step m ih =>
    by_cases hn : m.id ∈ s.published
    · rw [consult_of_published hn]
      exact ⟨[], Makes.refl s, fun b hb => absurd hb List.not_mem_nil⟩
    · obtain ⟨before, hbefore, hb⟩ := makes_missing h hn fun i hi => ih i hi (h.of_import hi)
      refine ⟨before ++ [m], hbefore, ?_⟩
      intro b hbm
      rcases List.mem_append.mp hbm with hbm | hbm
      · exact .inr (hb b hbm)
      · exact .inl (List.mem_singleton.mp hbm)

/-- The first look into what a module exports makes the tables below it that are missing, and then
its own. -/
theorem makes_consult_first {m : Module} (h : m.Built) (hn : m.id ∉ s.published) :
    ∃ before, s.Makes (s.consult m) (before ++ [m]) ∧ ∀ b ∈ before, m.Below b :=
  makes_missing h hn fun _ hi => makes_consult (h.of_import hi)

theorem leads_consult {m : Module} (h : m.Built) (s : Store) : s.Leads (s.consult m) := by
  obtain ⟨made, hmade, -⟩ := makes_consult h s
  exact ⟨made, hmade⟩

theorem law_leads : Law Module.Built Leads where
  refl := Leads.refl
  trans := Leads.trans
  imports h hi := h.of_import hi
  consult h s := leads_consult h s
  note he _ s := leads_note he s
  built _ := ⟨[], makes_settle _ _ _⟩
  refused _ _ := ⟨[], makes_settle _ _ _⟩

end Store

end InfoModel

import InfoModel.Proofs.Query.Law

/-!
# Every part is built once

Whatever is asked and however often, a part is built when it is first asked for and never again,
also if its building fails. `Store.Ran` says which parts were built on the way from one store to
another: what is noticed about parts on that way is what their buildings notice, each once. Main
statement: `Store.ran_after`.
-/

namespace InfoModel

def Step.event? : Step → Option Event
  | .look .. => none
  | .notice e => some e

def Aggregate.notices (a : Aggregate) : List Event := a.part.build.trace.filterMap Step.event?

namespace Store

/-- On the way from `s` to `t` the parts in `ran` were built, in this order. None of them had been
asked for before, none was built twice, and nothing was noticed about parts but what these buildings
notice. Nothing else became of any part on the way. -/
structure Ran (s t : Store) (ran : List Aggregate) : Prop where
  new : ∀ a ∈ ran, s.fate? a.part.slot = none
  settled : ∀ a ∈ ran, t.fate? a.part.slot = some .built
  once : (ran.map fun a => a.part.slot).Nodup
  remembers : s.Remembers t
  only : ∀ slot fate, t.fate? slot = some fate →
    s.fate? slot = some fate ∨ ∃ a ∈ ran, a.part.slot = slot
  noticed : ∃ log, t.journal = s.journal ++ log ∧
    log.filter Event.isOfPart = ran.flatMap Aggregate.notices

variable {s t u : Store} {m : Module}

theorem Ran.of_quiet (h : s.Quiet t) : s.Ran t [] := by
  have hf := h.records.fate?_eq
  refine ⟨fun a ha => absurd ha List.not_mem_nil, fun a ha => absurd ha List.not_mem_nil,
    List.nodup_nil, fun slot fate hs => (hf slot).trans hs, ?_, h.notices.filter_eq_nil⟩
  intro slot fate ht
  rw [hf] at ht
  exact .inl ht

theorem Ran.trans {ran more : List Aggregate} (h₁ : s.Ran t ran) (h₂ : t.Ran u more) :
    s.Ran u (ran ++ more) := by
  have hnew : ∀ a ∈ more, s.fate? a.part.slot = none := by
    intro a ha
    cases hf : s.fate? a.part.slot with
    | none => rfl
    | some fate =>
      have ht := h₁.remembers _ _ hf
      rw [h₂.new a ha] at ht
      contradiction
  refine ⟨?_, ?_, ?_, ?_, ?_, ?_⟩
  · intro a ha
    rcases List.mem_append.mp ha with ha | ha
    · exact h₁.new a ha
    · exact hnew a ha
  · intro a ha
    rcases List.mem_append.mp ha with ha | ha
    · exact h₂.remembers _ _ (h₁.settled a ha)
    · exact h₂.settled a ha
  · rw [List.map_append, List.nodup_append]
    refine ⟨h₁.once, h₂.once, ?_⟩
    -- what was built on the first way was settled before the second
    rintro slot hs slot' hs' rfl
    obtain ⟨a, ha, rfl⟩ := List.mem_map.mp hs
    obtain ⟨b, hb, hab⟩ := List.mem_map.mp hs'
    have hsettled := h₁.settled a ha
    rw [← hab, h₂.new b hb] at hsettled
    contradiction
  · exact fun slot fate h => h₂.remembers slot fate (h₁.remembers slot fate h)
  · intro slot fate h
    rcases h₂.only slot fate h with h | ⟨a, ha, rfl⟩
    · rcases h₁.only slot fate h with h | ⟨a, ha, rfl⟩
      · exact .inl h
      · exact .inr ⟨a, List.mem_append_left _ ha, rfl⟩
    · exact .inr ⟨a, List.mem_append_right _ ha, rfl⟩
  · obtain ⟨log, hj, hl⟩ := h₁.noticed
    obtain ⟨log', hj', hl'⟩ := h₂.noticed
    refine ⟨log ++ log', ?_, ?_⟩
    · rw [hj', hj, List.append_assoc]
    · rw [List.filter_append, hl, hl', List.flatMap_append]

theorem Ran.fate?_eq {ran : List Aggregate} (h : s.Ran t ran) {slot : Slot}
    (hslot : ∀ a ∈ ran, a.part.slot ≠ slot) : t.fate? slot = s.fate? slot := by
  cases hs : s.fate? slot with
  | some fate => exact h.remembers slot fate hs
  | none =>
    cases ht : t.fate? slot with
    | none => rfl
    | some fate =>
      rcases h.only slot fate ht with hf | ⟨a, ha, heq⟩
      · rw [hs] at hf
        contradiction
      · exact absurd heq (hslot a ha)

theorem noticed_trace {steps : List Step} (hs : ∀ a ∈ steps, a.Fits m) (s : Store) :
    ∃ log, (steps.foldl take s).journal = s.journal ++ log ∧
      log.filter Event.isOfPart = steps.filterMap Step.event? := by
  induction steps generalizing s with
  | nil => exact ⟨[], (List.append_nil _).symm, rfl⟩
  | cons a as ih =>
    obtain ⟨ha, has⟩ := List.forall_mem_cons.mp hs
    obtain ⟨log', hj', hl'⟩ := ih has (s.take a)
    cases a with
    | look i k name found =>
      obtain ⟨log, hj, hnone⟩ := (quiet_consult i s).notices.filter_eq_nil
      refine ⟨log ++ log', ?_, ?_⟩
      · rw [List.foldl_cons, hj', ← List.append_assoc]
        exact congrArg (· ++ log') hj
      · rw [List.filter_append, hnone, hl']
        rfl
    | notice e =>
      have he : e.isOfPart = true := ha
      refine ⟨e :: log', ?_, ?_⟩
      · rw [List.foldl_cons, hj']
        exact (List.append_assoc _ [e] log').trans rfl
      · rw [List.filter_cons_of_pos he, hl']
        rfl

theorem ran_build {p : Part α} {a : Aggregate} (h : Views p a) (hf : s.fate? p.slot = none) :
    s.Ran ((p.build.trace.foldl take s).settle p.slot .built) [a] := by
  have hr := records_trace p.build.trace s
  have hfits : ∀ b ∈ p.build.trace, b.Fits a.home := by
    rw [h.trace]
    exact a.of_part.fits.steps
  obtain ⟨log, hj, hl⟩ := noticed_trace hfits s
  refine ⟨?_, ?_, List.nodup_singleton _, ?_, ?_, ⟨log, hj, ?_⟩⟩
  · intro b hb
    rw [List.mem_singleton.mp hb, ← h.slot]
    exact hf
  · intro b hb
    rw [List.mem_singleton.mp hb, fate?_settle, if_pos h.slot]
  · intro slot fate hslot
    -- the steps of the building settle nothing
    exact remembers_settle ((hr.fate?_eq _).trans hf) .built slot fate
      ((hr.fate?_eq slot).trans hslot)
  · intro slot fate hslot
    rw [fate?_settle] at hslot
    split at hslot
    · rename_i heq
      exact .inr ⟨a, List.mem_singleton_self a, h.slot ▸ heq⟩
    · rw [hr.fate?_eq] at hslot
      exact .inl hslot
  · rw [hl, h.trace]
    exact (List.append_nil _).symm

/-- A part of a module that is held is built when it is first asked for. -/
theorem ran_demand {p : Part α} {a : Aggregate} (h : Views p a) (ha : m.Has a)
    (hs : s.Clear m.id) :
    s.Ran (s.demand p).2 (if (s.fate? a.part.slot).isNone then [a] else []) := by
  have hhome : p.slot.home = m.id := h.slot ▸ ha.slot_home
  rw [← h.slot]
  rcases demand_cases p s with ⟨fate, hf, hd⟩ | ⟨-, -, hr, -⟩ | ⟨hf, -, hd⟩
  · rw [hd, hf]
    exact .of_quiet (.refl s)
  · exact absurd (hhome ▸ hr) hs.held
  · rw [hd, hf]
    exact ran_build h hf

theorem law_ran (G : Module → Prop) :
    AskLaw G fun s t => (∀ m, G m → s.Clear m.id) →
      (∀ m, G m → t.Clear m.id) ∧ ∃ ran, s.Ran t ran ∧ ∀ a ∈ ran, ∃ m, G m ∧ m.Has a where
  trans h₁ h₂ hs := by
    obtain ⟨ht, ran, hran, hhas⟩ := h₁ hs
    obtain ⟨hu, more, hmore, hhas'⟩ := h₂ ht
    refine ⟨hu, ran ++ more, hran.trans hmore, ?_⟩
    intro a ha
    rcases List.mem_append.mp ha with ha | ha
    · exact hhas a ha
    · exact hhas' a ha
  quiet h hs := by
    have hu := Undisturbed.of_records h.records
    exact ⟨fun m hm => hu.clear m.id (hs m hm), [], .of_quiet h,
      fun a ha => absurd ha List.not_mem_nil⟩
  demand {m a _ p} hm ha hp s hs := by
    have hu := undisturbed_demand p s
    refine ⟨fun n hn => hu.clear n.id (hs n hn), _, ran_demand hp ha (hs m hm), ?_⟩
    intro b hb
    split at hb
    · rw [List.mem_singleton.mp hb]
      exact ⟨m, hm, ha⟩
    · exact absurd hb List.not_mem_nil

/-- On the way of any number of queries every part is built once. -/
theorem ran_after {G : Module → Prop} {qs : List Query} (hqs : ∀ q ∈ qs, ∃ m, G m ∧ q.Of m)
    (hs : ∀ m, G m → s.Clear m.id) :
    ∃ ran, s.Ran (s.after qs) ran ∧ ∀ a ∈ ran, ∃ m, G m ∧ m.Has a :=
  ((law_ran G).after hqs s hs).2

end Store

end InfoModel

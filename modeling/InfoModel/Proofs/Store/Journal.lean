import InfoModel.Proofs.Building.Module

/-!
# What is noticed on the way

The journal of a store only grows. Making tables of exports adds events about shadowing and nothing
else; no request about a module and no attempt to build one adds an event about loading. Main
statements: `Store.notices_consult`, `Store.notices_build`.
-/

namespace InfoModel

namespace Store

/-- All events that were noticed on the way from `s` to `t` have the property `N`. -/
def Notices (N : Event → Prop) (s t : Store) : Prop :=
  ∃ log, t.journal = s.journal ++ log ∧ ∀ e ∈ log, N e

variable {N : Event → Prop} {s t u : Store}

theorem Notices.of_journal_eq (h : t.journal = s.journal) : Notices N s t := by
  refine ⟨[], ?_, fun e he => absurd he List.not_mem_nil⟩
  rw [h, List.append_nil]

theorem Notices.refl (s : Store) : Notices N s s := .of_journal_eq rfl

theorem Notices.trans (h₁ : Notices N s t) (h₂ : Notices N t u) : Notices N s u := by
  obtain ⟨log, hj, hn⟩ := h₁
  obtain ⟨log', hj', hn'⟩ := h₂
  refine ⟨log ++ log', ?_, ?_⟩
  · rw [hj', hj, List.append_assoc]
  · intro e he
    rcases List.mem_append.mp he with he | he
    · exact hn e he
    · exact hn' e he

theorem Notices.mono {N' : Event → Prop} (h : Notices N s t) (hn : ∀ e, N e → N' e) :
    Notices N' s t := by
  obtain ⟨log, hj, hl⟩ := h
  exact ⟨log, hj, fun e he => hn e (hl e he)⟩

theorem Notices.filter_eq_nil {f : Event → Bool} (h : Notices (fun e => f e = false) s t) :
    ∃ log, t.journal = s.journal ++ log ∧ log.filter f = [] := by
  obtain ⟨log, hj, hl⟩ := h
  refine ⟨log, hj, List.filter_eq_nil_iff.mpr fun e he => ?_⟩
  rw [hl e he]
  exact Bool.false_ne_true

theorem notices_note {e : Event} (he : N e) (s : Store) : Notices N s (s.note [e]) := by
  refine ⟨[e], rfl, ?_⟩
  intro e' he'
  rw [List.mem_singleton.mp he']
  exact he

theorem isShadowing_of_mem_shadowings {m : Module} {e : Event} (he : e ∈ m.shadowings) :
    e.isShadowing = true := by
  rw [← filter_shadowings] at he
  exact (List.mem_filter.mp he).2

theorem notices_consult (m : Module) (s : Store) :
    Notices (fun e => e.isShadowing = true) s (s.consult m) := by
  refine consult_induct (fun s => Notices.refl s) Notices.trans ?_ m s
  intro s m
  exact ⟨m.shadowings, rfl, fun e he => isShadowing_of_mem_shadowings he⟩

theorem isLoading_of_isShadowing {e : Event} (h : e.isShadowing = true) : e.isLoading = false := by
  cases e <;> simp [Event.isShadowing, Event.isLoading] at h ⊢

theorem law_notices : Law (fun _ => True) (Notices fun e => e.isLoading = false) where
  refl := Notices.refl
  trans := Notices.trans
  imports _ _ := trivial
  consult _ s := (notices_consult _ s).mono fun _ he => isLoading_of_isShadowing he
  note _ hl s := notices_note hl s
  built _ := .of_journal_eq rfl
  refused _ _ := .of_journal_eq rfl

theorem notices_build {outcome : Except ModelFault Module} {setup : Setup} {d : ModuleDecl}
    {location : Option Uri} {imports : List Module}
    (hb : Module.build setup d location imports s = (outcome, t)) :
    Notices (fun e => e.isLoading = false) s t :=
  law_notices.build (.of_journal_eq rfl) (fun _ _ => trivial) hb

end Store

end InfoModel

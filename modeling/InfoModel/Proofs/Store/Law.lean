import InfoModel.Proofs.Building.Ownership
import InfoModel.Proofs.Module.Graph
import InfoModel.Proofs.Outcome

/-!
# What holds along requests

Whatever is asked about the parts of a module changes a store by few kinds of steps: a table of
exports is made, something is noticed, a part is settled. A relation between stores that holds along
each of them, and along none or several, holds along every such request. Main statements:
`Law.demand`, `Law.resolveAll`.
-/

namespace InfoModel

namespace Store

def numbered (s : Store) : Store := { s with nextId := s.nextId + 1 }

/-- `R` holds along each step that may be taken for modules with the property `P`. -/
structure Law (P : Module → Prop) (R : Store → Store → Prop) : Prop where
  refl : ∀ s, R s s
  trans : ∀ {s t u}, R s t → R t u → R s u
  imports : ∀ {m i}, P m → i ∈ m.imports → P i
  consult : ∀ {m}, P m → ∀ s, R s (s.consult m)
  note : ∀ {e : Event}, e.isShadowing = false → e.isLoading = false → ∀ s, R s (s.note [e])
  built : ∀ {slot s}, s.fate? slot = none → R s (s.settle slot .built)
  refused : ∀ {slot s}, s.fate? slot = none → slot.home ∈ s.released → R s (s.settle slot .refused)

/-- The stores differ in their tables of exports and in what was noticed. -/
def Records (s t : Store) : Prop :=
  ∃ published journal, t = { s with published := published, journal := journal }

theorem Records.refl (s : Store) : s.Records s := ⟨s.published, s.journal, rfl⟩

theorem Records.trans {s t u : Store} (h₁ : s.Records t) (h₂ : t.Records u) : s.Records u := by
  obtain ⟨_, _, rfl⟩ := h₁
  obtain ⟨published, journal, rfl⟩ := h₂
  exact ⟨published, journal, rfl⟩

theorem Records.fate?_eq {s t : Store} (h : s.Records t) (slot : Slot) :
    t.fate? slot = s.fate? slot := by
  obtain ⟨_, _, rfl⟩ := h
  rfl

def publish (s : Store) (m : Module) : Store :=
  { s with published := m.id :: s.published, journal := s.journal ++ m.shadowings }

section
variable {R : Store → Store → Prop} (refl : ∀ s, R s s) (trans : ∀ {s t u}, R s t → R t u → R s u)
include refl trans

theorem consultAll_induct {ms : List Module} (h : ∀ i ∈ ms, ∀ s : Store, R s (s.consult i))
    (s : Store) : R s (s.consultAll ms) := by
  induction ms generalizing s with
  | nil => exact refl s
  | cons i is ih =>
    have hhead : R s (s.consult i) := h i List.mem_cons_self s
    have hrest := ih (fun j hj => h j (List.mem_cons_of_mem i hj)) (s.consult i)
    exact trans hhead hrest

/-- What holds where a single table is made holds where all those that a look needs are made. -/
theorem consult_induct (step : ∀ s m, R s (publish s m)) (m : Module) (s : Store) :
    R s (s.consult m) := by
  induction m using Module.induct generalizing s with
  | step m ih =>
    have hall := consultAll_induct refl trans (fun i hi s => ih i hi s) s
    obtain ⟨info, imports⟩ := m
    rw [consult]
    split
    · exact refl s
    · exact trans hall (step (s.consultAll imports) ⟨info, imports⟩)

end

theorem records_consult (m : Module) (s : Store) : s.Records (s.consult m) :=
  consult_induct Records.refl Records.trans (fun _ _ => ⟨_, _, rfl⟩) m s

theorem records_trace (steps : List Step) (s : Store) : s.Records (steps.foldl take s) := by
  induction steps generalizing s with
  | nil => exact Records.refl s
  | cons a as ih =>
    refine Records.trans ?_ (ih (s.take a))
    cases a with
    | look i k name found => exact records_consult i s
    | notice e => exact ⟨_, _, rfl⟩

/-- A part was asked for before, or its module is needed and was released, or it is built. -/
theorem demand_cases (p : Part α) (s : Store) :
    (∃ fate, s.fate? p.slot = some fate ∧ (s.demand p).2 = s) ∨
    (s.fate? p.slot = none ∧ p.needsModule = true ∧ p.slot.home ∈ s.released ∧
      s.demand p = (.error (.released p.definition.text), s.settle p.slot .refused)) ∨
    (s.fate? p.slot = none ∧ (p.needsModule = true → p.slot.home ∉ s.released) ∧
      s.demand p = (p.build.outcome, (p.build.trace.foldl take s).settle p.slot .built)) := by
  unfold demand
  split
  · rename_i hf
    exact .inl ⟨_, hf, rfl⟩
  · rename_i hf
    exact .inl ⟨_, hf, rfl⟩
  · rename_i hf
    split
    · rename_i hr
      rw [Bool.and_eq_true, List.contains_iff_mem] at hr
      exact .inr (.inl ⟨hf, hr.1, hr.2, rfl⟩)
    · rename_i hr
      rw [Bool.and_eq_true, List.contains_iff_mem] at hr
      exact .inr (.inr ⟨hf, fun hn hm => hr ⟨hn, hm⟩, rfl⟩)

theorem forM_get_cons (p : Part Unit) (ps : List (Part Unit)) (s : Store) :
    (p :: ps).forM Part.get s = match s.demand p with
      | (.ok _, t) => ps.forM Part.get t
      | (.error e, t) => (.error e, t) := by
  have hg : p.get s = s.demand p := rfl
  refine (stateful_bind p.get (fun _ => ps.forM Part.get) s).trans ?_
  rw [hg]
  cases s.demand p with
  | mk outcome t =>
    cases outcome with
    | ok _ => rfl
    | error e => rfl

theorem resolveAll_eq (m : Module) (s : Store) :
    m.resolveAll s = match m.parts.forM Part.get s with
      | (.ok _, t) => (.ok (), t.note [.resolvedModule m.shortName])
      | (.error e, t) => (.error e, t) := by
  unfold Module.resolveAll
  rw [stateful_bind]
  cases m.parts.forM Part.get s with
  | mk outcome t => cases outcome <;> rfl

namespace Law
variable {P : Module → Prop} {R : Store → Store → Prop} {m : Module}

theorem of_all (h : Law (fun _ => True) R) (hi : ∀ {m i}, P m → i ∈ m.imports → P i) : Law P R :=
  { h with
    imports := hi
    consult := fun _ => h.consult trivial }

theorem consultAll (h : Law P R) {ms : List Module} (hms : ∀ i ∈ ms, P i) (s : Store) :
    R s (s.consultAll ms) := by
  induction ms generalizing s with
  | nil => exact h.refl s
  | cons i is ih =>
    refine h.trans (h.consult (hms i List.mem_cons_self) s) ?_
    exact ih (fun j hj => hms j (List.mem_cons_of_mem i hj)) (s.consult i)

theorem trace (h : Law P R) (hm : P m) {steps : List Step} (hs : ∀ a ∈ steps, a.Fits m)
    (s : Store) : R s (steps.foldl take s) := by
  induction steps generalizing s with
  | nil => exact h.refl s
  | cons a as ih =>
    have ht : R s (s.take a) := by
      have ha := hs a List.mem_cons_self
      cases a with
      | look i k name found => exact h.consult (h.imports hm ha.1) s
      | notice e =>
        exact h.note (Event.isShadowing_of_isOfPart ha) (Event.isLoading_of_isOfPart ha) s
    exact h.trans ht (ih (fun b hb => hs b (List.mem_cons_of_mem a hb)) (s.take a))

theorem demand (h : Law P R) (hm : P m) {p : Part α} (hp : p.Of m) (s : Store) :
    R s (s.demand p).2 := by
  rcases demand_cases p s with ⟨_, -, hd⟩ | ⟨hf, -, hr, hd⟩ | ⟨hf, -, hd⟩
  · rw [hd]
    exact h.refl s
  · rw [hd]
    exact h.refused hf hr
  · -- no step settles a part, so this one is settled for the first time
    have hf' := ((records_trace p.build.trace s).fate?_eq p.slot).trans hf
    rw [hd]
    exact h.trans (h.trace hm hp.fits.steps s) (h.built hf')

theorem forM (h : Law P R) (hm : P m) {ps : List (Part Unit)} (hps : ∀ p ∈ ps, p.Of m)
    (s : Store) : R s (ps.forM Part.get s).2 := by
  induction ps generalizing s with
  | nil => exact h.refl s
  | cons p ps ih =>
    rw [forM_get_cons]
    have hd := h.demand hm (hps p List.mem_cons_self) s
    cases hs : s.demand p with
    | mk outcome t =>
      rw [hs] at hd
      cases outcome with
      | ok _ => exact h.trans hd (ih (fun q hq => hps q (List.mem_cons_of_mem p hq)) t)
      | error e => exact hd

theorem resolveAll (h : Law P R) (hm : P m) (s : Store) : R s (m.resolveAll s).2 := by
  rw [resolveAll_eq]
  have hf := h.forM hm (fun p hp => Module.of_mem_parts hp) s
  cases hs : m.parts.forM Part.get s with
  | mk outcome t =>
    rw [hs] at hf
    cases outcome with
    | ok _ => exact h.trans hf (h.note rfl rfl t)
    | error e => exact hf

end Law

end Store

end InfoModel

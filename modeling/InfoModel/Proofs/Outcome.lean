import Mathlib.Data.List.Forall2

/-!
# Outcomes in sequence

A sequence of computations that may fail succeeds if every one of them does, and what each of them
keeps, the sequence keeps. A computation that also changes a state goes on from the state that the
first part left, and ends in it if that part failed.
-/

namespace InfoModel
variable {ε ζ α β : Type}

theorem Except.bind_eq_ok_iff {x : Except ε α} {f : α → Except ε β} {b : β} :
    (x >>= f) = .ok b ↔ ∃ a, x = .ok a ∧ f a = .ok b := by
  cases x with
  | ok a => simp [bind, Except.bind]
  | error e => simp [bind, Except.bind]

theorem Except.bind_eq_error_iff {x : Except ε α} {f : α → Except ε β} {e : ε} :
    (x >>= f) = .error e ↔ x = .error e ∨ ∃ a, x = .ok a ∧ f a = .error e := by
  cases x with
  | ok a => simp [bind, Except.bind]
  | error e' => simp [bind, Except.bind]

theorem Except.map_eq_ok_iff {x : Except ε α} {f : α → β} {b : β} :
    x.map f = .ok b ↔ ∃ a, x = .ok a ∧ f a = b := by
  cases x with
  | ok a => simp [Except.map]
  | error e => simp [Except.map]

theorem Except.map_eq_error_iff {x : Except ε α} {f : α → β} {e : ε} :
    x.map f = .error e ↔ x = .error e := by
  cases x with
  | ok a => simp [Except.map]
  | error e' => simp [Except.map]

theorem Except.step_of_foldlM_error {f : β → α → Except ε β} {as : List α} {b : β} {e : ε}
    (h : as.foldlM f b = .error e) : ∃ b, ∃ a ∈ as, f b a = .error e := by
  induction as generalizing b with
  | nil => exact absurd h (by simp [pure, Except.pure])
  | cons a as ih =>
    rw [List.foldlM_cons, Except.bind_eq_error_iff] at h
    rcases h with h | ⟨c, -, h⟩
    · exact ⟨b, a, List.mem_cons_self, h⟩
    · obtain ⟨b', a', ha', h'⟩ := ih h
      exact ⟨b', a', List.mem_cons_of_mem a ha', h'⟩

theorem Except.foldlM_keeps {f : β → α → Except ε β} {Keeps : β → Prop}
    (step : ∀ b a b', Keeps b → f b a = .ok b' → Keeps b') {as : List α} {b b' : β}
    (hb : Keeps b) (h : as.foldlM f b = .ok b') : Keeps b' := by
  induction as generalizing b with
  | nil =>
    cases h
    exact hb
  | cons a as ih =>
    rw [List.foldlM_cons, Except.bind_eq_ok_iff] at h
    obtain ⟨c, hc, h⟩ := h
    exact ih (step b a c hb hc) h

theorem Except.optionMapM_eq_ok_iff {f : α → Except ε β} {a : Option α} {b : Option β} :
    a.mapM f = .ok b ↔ Option.Rel (fun a b => f a = .ok b) a b := by
  cases a with
  | none =>
    constructor
    · intro h
      cases h
      exact .none
    · intro h
      cases h
      rfl
  | some a =>
    have hmap : (some a).mapM f = (f a).map some := rfl
    rw [hmap, Except.map_eq_ok_iff]
    constructor
    · rintro ⟨b, hb, rfl⟩
      exact .some hb
    · intro h
      cases h with
      | some hb => exact ⟨_, hb, rfl⟩

theorem Except.optionMapM_eq_error_iff {f : α → Except ε β} {a : Option α} {e : ε} :
    a.mapM f = .error e ↔ ∃ x, a = some x ∧ f x = .error e := by
  cases a with
  | none =>
    constructor
    · intro h
      cases h
    · rintro ⟨x, hx, -⟩
      cases hx
  | some a =>
    have hmap : (some a).mapM f = (f a).map some := rfl
    rw [hmap, Except.map_eq_error_iff]
    simp

theorem Except.listMapM_eq_ok_iff {f : α → Except ε β} {as : List α} {bs : List β} :
    as.mapM f = .ok bs ↔ List.Forall₂ (fun a b => f a = .ok b) as bs := by
  induction as generalizing bs with
  | nil =>
    constructor
    · intro h
      cases h
      exact .nil
    · intro h
      cases h
      rfl
  | cons a as ih =>
    rw [List.mapM_cons, Except.bind_eq_ok_iff]
    constructor
    · rintro ⟨b, hb, h⟩
      obtain ⟨rest, hrest, h⟩ := Except.bind_eq_ok_iff.mp h
      cases h
      exact .cons hb (ih.mp hrest)
    · intro h
      cases h with
      | cons hb hrest => exact ⟨_, hb, Except.bind_eq_ok_iff.mpr ⟨_, ih.mpr hrest, rfl⟩⟩

theorem Except.forall_of_listMapM {f : α → Except ε β} {P : β → Prop}
    (hf : ∀ a b, f a = .ok b → P b) {as : List α} {bs : List β} (h : as.mapM f = .ok bs) :
    ∀ b ∈ bs, P b := by
  have hmade := (Except.listMapM_eq_ok_iff.mp h).flip
  have hall := hmade.imp fun b a hb => And.intro (hf a b hb) hb
  exact ((List.forall₂_and_left _ _).mp hall).1

variable {σ : Type}

theorem stateful_bind (x : ExceptT ε (StateM σ) α) (f : α → ExceptT ε (StateM σ) β) (s : σ) :
    (x >>= f) s = match x s with
      | (.ok a, t) => f a t
      | (.error e, t) => (.error e, t) := by
  simp only [bind, ExceptT.bind, ExceptT.mk, ExceptT.bindCont, StateT.bind]
  cases x s with
  | mk outcome t =>
    cases outcome with
    | ok a => rfl
    | error e => rfl

theorem stateful_get (f : σ → ExceptT ε (StateM σ) β) (s : σ) :
    ((get : ExceptT ε (StateM σ) σ) >>= f) s = f s s := rfl

theorem stateful_bind_ok {x : ExceptT ε (StateM σ) α} {s t : σ} {a : α} (h : x s = (.ok a, t))
    (f : α → ExceptT ε (StateM σ) β) : (x >>= f) s = f a t := by
  rw [stateful_bind, h]

end InfoModel

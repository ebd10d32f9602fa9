/-!
# Outcomes with a trace

A computation may fail, and on its way it leaves a trace of steps. What a failure interrupts leaves
no further steps; the steps before it remain.
-/

namespace InfoModel

/-- An outcome together with the steps on the way to it. -/
structure Traced (σ ε α : Type) where
  trace : List σ
  outcome : Except ε α

namespace Traced
variable {σ τ ε ζ α β : Type}

def ofExcept (outcome : Except ε α) : Traced σ ε α := ⟨[], outcome⟩

def value (a : α) : Traced σ ε α := ofExcept (.ok a)

def fail (e : ε) : Traced σ ε α := ofExcept (.error e)

def steps (trace : List σ) : Traced σ ε Unit := ⟨trace, .ok ()⟩

def step (s : σ) : Traced σ ε Unit := steps [s]

/-- First `x`, then what `f` makes of its value. -/
def andThen (x : Traced σ ε α) (f : α → Traced σ ε β) : Traced σ ε β :=
  match x.outcome with
  | .ok a => ⟨x.trace ++ (f a).trace, (f a).outcome⟩
  | .error e => ⟨x.trace, .error e⟩

instance : Monad (Traced σ ε) where
  pure := value
  bind := andThen

instance : LawfulMonad (Traced σ ε) := by
  refine LawfulMonad.mk' (Traced σ ε) ?_ ?_ ?_
  · intro α x
    rcases x with ⟨trace, _ | a⟩ <;> simp [Functor.map, andThen, value, ofExcept]
  · intro α β a f
    simp [bind, pure, andThen, value, ofExcept]
  · intro α β γ x f g
    rcases x with ⟨trace, _ | a⟩
    · rfl
    · simp only [bind, andThen]
      rcases (f a) with ⟨trace', _ | b⟩ <;> simp

def mapFault (f : ε → ζ) (x : Traced σ ε α) : Traced σ ζ α :=
  ⟨x.trace, match x.outcome with | .ok a => .ok a | .error e => .error (f e)⟩

def mapStep (f : σ → τ) (x : Traced σ ε α) : Traced τ ε α := ⟨x.trace.map f, x.outcome⟩

theorem outcome_bind (x : Traced σ ε α) (f : α → Traced σ ε β) :
    (x >>= f).outcome = x.outcome.bind fun a => (f a).outcome := by
  rcases x with ⟨trace, _ | a⟩ <;> rfl

theorem outcome_bind_eq_ok_iff {x : Traced σ ε α} {f : α → Traced σ ε β} {b : β} :
    (x >>= f).outcome = .ok b ↔ ∃ a, x.outcome = .ok a ∧ (f a).outcome = .ok b := by
  rw [outcome_bind]
  cases x.outcome <;> simp [Except.bind]

theorem trace_bind_ok {x : Traced σ ε α} {a : α} (h : x.outcome = .ok a)
    (f : α → Traced σ ε β) : (x >>= f).trace = x.trace ++ (f a).trace := by
  simp [bind, andThen, h]

theorem outcome_map (f : α → β) (x : Traced σ ε α) : (f <$> x).outcome = x.outcome.map f := by
  rcases x with ⟨trace, _ | a⟩ <;> rfl

theorem outcome_mapM (f : α → Traced σ ε β) (as : List α) :
    (as.mapM f).outcome = as.mapM fun a => (f a).outcome := by
  induction as with
  | nil => rfl
  | cons a as ih =>
    rw [List.mapM_cons, List.mapM_cons, outcome_bind]
    refine congrArg ((f a).outcome.bind ·) (funext fun b => ?_)
    rw [outcome_bind, ih]
    rfl

theorem trace_map (f : α → β) (x : Traced σ ε α) : (f <$> x).trace = x.trace := by
  rcases x with ⟨trace, _ | a⟩ <;> simp [Functor.map, andThen, value, ofExcept]

theorem trace_bind_error {x : Traced σ ε α} {e : ε} (h : x.outcome = .error e)
    (f : α → Traced σ ε β) : (x >>= f).trace = x.trace := by
  simp [bind, andThen, h]

end Traced

end InfoModel

import InfoModel.Model.Building
import InfoModel.Proofs.Outcome

/-!
# The fault of an outcome

A computation has a fault if it fails. Of a sequence it is that of the first part or else that of
the second, whenever the latter does not depend on what the first one made.
-/

namespace InfoModel

section
variable {ε ζ α β : Type}

def faultOf? : Except ε α → Option ε
  | .ok _ => none
  | .error e => some e

theorem faultOf?_eq_none_iff {x : Except ε α} : faultOf? x = none ↔ ∃ a, x = .ok a := by
  cases x with
  | ok a => simp [faultOf?]
  | error e => simp [faultOf?]

theorem faultOf?_eq_some_iff {x : Except ε α} {e : ε} : faultOf? x = some e ↔ x = .error e := by
  cases x with
  | ok a => simp [faultOf?]
  | error e' => simp [faultOf?]

theorem faultOf?_bind_of {x : Except ε α} {f : α → Except ε β} {o : Option ε}
    (h : ∀ a, x = .ok a → faultOf? (f a) = o) : faultOf? (x >>= f) = (faultOf? x).or o := by
  cases x with
  | ok a => exact h a rfl
  | error e => rfl

theorem faultOf?_bind_none {x : Except ε α} {f : α → Except ε β}
    (h : ∀ a, faultOf? (f a) = none) : faultOf? (x >>= f) = faultOf? x := by
  rw [faultOf?_bind_of fun a _ => h a, Option.or_none]

theorem faultOf?_map (f : α → β) (x : Except ε α) : faultOf? (x.map f) = faultOf? x := by
  cases x <;> rfl

theorem faultOf?_mapM (f : α → Except ε β) (a : Option α) :
    faultOf? (a.mapM f) = a.bind fun a => faultOf? (f a) := by
  cases a with
  | none => rfl
  | some a => exact faultOf?_map some (f a)

theorem faultOf?_listMapM (f : α → Except ε β) (as : List α) :
    faultOf? (as.mapM f) = as.findSome? fun a => faultOf? (f a) := by
  induction as with
  | nil => rfl
  | cons a as ih =>
    rw [List.mapM_cons, faultOf?_bind_of fun b _ => faultOf?_bind_none fun bs => rfl, ih,
      List.findSome?_cons]
    cases faultOf? (f a) with
    | none => rfl
    | some e => rfl

theorem faultOf?_orBasic (x : Except Fault α) :
    faultOf? (orBasic x) = (faultOf? x).map ModelFault.basic := by
  cases x <;> rfl

theorem foldlM_concat_eq_ok_iff {f : β → α → Except ε β} {as : List α} {a : α} {b c : β} :
    (as ++ [a]).foldlM f b = .ok c ↔ ∃ m, as.foldlM f b = .ok m ∧ f m a = .ok c := by
  rw [List.foldlM_append, Except.bind_eq_ok_iff]
  refine exists_congr fun m => and_congr_right fun _ => ?_
  rw [List.foldlM_cons, Except.bind_eq_ok_iff]
  simp [pure, Except.pure]

/-- A fold fails at the first element that cannot be taken up behind those before it. -/
theorem foldlM_eq_error_iff {f : β → α → Except ε β} {as : List α} {b : β} {e : ε} :
    as.foldlM f b = .error e ↔ ∃ before a after m,
      as = before ++ a :: after ∧ before.foldlM f b = .ok m ∧ f m a = .error e := by
  induction as generalizing b with
  | nil => simp [pure, Except.pure]
  | cons a as ih =>
    rw [List.foldlM_cons, Except.bind_eq_error_iff]
    constructor
    · rintro (h | ⟨c, hc, h⟩)
      · exact ⟨[], a, as, b, rfl, rfl, h⟩
      · obtain ⟨before, a', after, m, rfl, hm, ha'⟩ := ih.mp h
        refine ⟨a :: before, a', after, m, rfl, ?_, ha'⟩
        rw [List.foldlM_cons, hc]
        exact hm
    · rintro ⟨before, a', after, m, has, hm, ha'⟩
      cases before with
      | nil =>
        cases hm
        cases has
        exact .inl ha'
      | cons c before =>
        cases has
        rw [List.foldlM_cons, Except.bind_eq_ok_iff] at hm
        obtain ⟨c', hc', hm⟩ := hm
        exact .inr ⟨c', hc', ih.mpr ⟨before, a', after, m, rfl, hm, ha'⟩⟩

namespace Traced
variable {σ : Type}

def fault? (x : Traced σ ε α) : Option ε := faultOf? x.outcome

theorem fault?_bind_of {x : Traced σ ε α} {f : α → Traced σ ε β} {o : Option ε}
    (h : ∀ a, x.outcome = .ok a → (f a).fault? = o) : (x >>= f).fault? = x.fault?.or o := by
  unfold fault?
  rw [outcome_bind]
  exact faultOf?_bind_of h

theorem fault?_bind_none {x : Traced σ ε α} {f : α → Traced σ ε β}
    (h : ∀ a, (f a).fault? = none) : (x >>= f).fault? = x.fault? := by
  rw [fault?_bind_of fun a _ => h a, Option.or_none]

theorem fault?_mapM (f : α → Traced σ ε β) (as : List α) :
    (as.mapM f).fault? = as.findSome? fun a => (f a).fault? := by
  unfold fault?
  rw [outcome_mapM, faultOf?_listMapM]

end Traced

end

theorem Build.fault?_basic (x : Except Fault α) :
    (Build.basic x).fault? = (faultOf? x).map ModelFault.basic :=
  faultOf?_orBasic x

end InfoModel

import InfoModel.Proofs.Fault
import Mathlib.Data.List.Forall2

/-!
# Siblings

Siblings are built one after the other, each behind those before it. If what is built for a
declaration depends on the siblings only through their declarations, then it stands for the
declaration and its place among them; and if whether it can be built depends on nothing but the
declaration, then the siblings fail with the fault of the first that cannot. Main statements:
`Traced.inTurn_of_collect`, `Traced.fault?_collect`.
-/

namespace InfoModel
variable {α β γ δ : Type} {R : List α → α → β → Prop} {as : List α} {bs : List β}

/-- The values stand for the declarations one for one, each for its own and those before it. -/
inductive InTurn (R : List α → α → β → Prop) : List α → List β → Prop where
  | nil : InTurn R [] []
  | concat {as : List α} {bs : List β} {a : α} {b : β} (front : InTurn R as bs) (last : R as a b) :
      InTurn R (as ++ [a]) (bs ++ [b])

namespace InTurn

theorem imp {S : List α → α → β → Prop} (h : InTurn R as bs)
    (hRS : ∀ earlier a b, R earlier a b → S earlier a b) : InTurn S as bs := by
  induction h with
  | nil => exact .nil
  | concat _ last ih => exact ih.concat (hRS _ _ _ last)

theorem map {S : List γ → γ → δ → Prop} {f : α → γ} {g : β → δ} (h : InTurn R as bs)
    (hRS : ∀ earlier a b, R earlier a b → S (earlier.map f) (f a) (g b)) :
    InTurn S (as.map f) (bs.map g) := by
  induction h with
  | nil => exact .nil
  | concat _ last ih =>
    rw [List.map_append, List.map_append]
    exact ih.concat (hRS _ _ _ last)

theorem map_eq {f : α → γ} {g : β → γ} (h : InTurn R as bs)
    (hfg : ∀ earlier a b, R earlier a b → g b = f a) : bs.map g = as.map f := by
  induction h with
  | nil => rfl
  | concat _ last ih =>
    rw [List.map_append, List.map_append, ih, List.map_singleton, List.map_singleton,
      hfg _ _ _ last]

theorem length_eq (h : InTurn R as bs) : bs.length = as.length := by
  have hunits := h.map_eq (f := fun _ => ()) (g := fun _ => ()) fun _ _ _ _ => rfl
  simpa using congrArg List.length hunits

theorem exists_of_mem {b : β} (h : InTurn R as bs) (hb : b ∈ bs) : ∃ earlier a, R earlier a b := by
  induction h with
  | nil => cases hb
  | concat _ last ih =>
    rcases List.mem_append.mp hb with hb | hb
    · exact ih hb
    · rw [List.mem_singleton.mp hb]
      exact ⟨_, _, last⟩

theorem filterMap_eq {f : α → Option γ} {g : β → Option γ} (h : InTurn R as bs)
    (hfg : ∀ earlier a b, R earlier a b → g b = f a) : bs.filterMap g = as.filterMap f := by
  induction h with
  | nil => rfl
  | concat _ last ih =>
    rw [List.filterMap_append, List.filterMap_append, ih]
    simp only [List.filterMap_cons, List.filterMap_nil, hfg _ _ _ last]

theorem forall₂_filterMap {S : γ → δ → Prop} {f : α → Option γ} {g : β → Option δ}
    (h : InTurn R as bs) (hfg : ∀ earlier a b, R earlier a b → Option.Rel S (f a) (g b)) :
    List.Forall₂ S (as.filterMap f) (bs.filterMap g) := by
  induction h with
  | nil => exact .nil
  | @concat as bs a b _ last ih =>
    rw [List.filterMap_append, List.filterMap_append]
    refine List.rel_append ih ?_
    have hab := hfg _ _ _ last
    simp only [List.filterMap_cons, List.filterMap_nil]
    generalize f a = x at hab ⊢
    generalize g b = y at hab ⊢
    cases hab with
    | none => exact .nil
    | some hcd => exact .cons hcd .nil

end InTurn

theorem findSome?_append_cons {ε : Type} {f : α → Option ε} {before after : List α} {a : α}
    {e : ε} (h : f a = some e) :
    (before ++ a :: after).findSome? f = some ((before.findSome? f).getD e) := by
  rw [List.findSome?_append, List.findSome?_cons, h]
  cases before.findSome? f <;> rfl

namespace Traced
variable {σ ε : Type} {make : List β → α → Traced σ ε β}

theorem inTurn_append_of_collect
    (hmake : ∀ earlier made a b, InTurn R earlier made → (make made a).outcome = .ok b →
      R earlier a b) {earlier : List α} {made : List β} (hmade : InTurn R earlier made)
    (h : (collect make made as).outcome = .ok bs) : InTurn R (earlier ++ as) bs := by
  -- what was made before stands for the earlier declarations, and each step adds one to both
  induction as generalizing earlier made with
  | nil =>
    cases h
    rw [List.append_nil]
    exact hmade
  | cons a as ih =>
    obtain ⟨b, hb, h⟩ := outcome_bind_eq_ok_iff.mp h
    have hnext := ih (hmade.concat (hmake earlier made a b hmade hb)) h
    rwa [List.append_assoc] at hnext

theorem inTurn_of_collect
    (hmake : ∀ earlier made a b, InTurn R earlier made → (make made a).outcome = .ok b →
      R earlier a b) (h : (collect make [] as).outcome = .ok bs) : InTurn R as bs :=
  inTurn_append_of_collect hmake .nil h

/-- Of several siblings the first that cannot be built decides the fault. -/
theorem fault?_collect {f : α → Option ε} (hmake : ∀ made a, (make made a).fault? = f a)
    (made : List β) (as : List α) : (collect make made as).fault? = as.findSome? f := by
  induction as generalizing made with
  | nil => rfl
  | cons a as ih =>
    have hrest : (collect make made (a :: as)).fault? = (make made a).fault?.or (as.findSome? f) :=
      fault?_bind_of fun b _ => ih (made ++ [b])
    rw [hrest, hmake, List.findSome?_cons]
    cases f a with
    | none => rfl
    | some e => rfl

end Traced

end InfoModel

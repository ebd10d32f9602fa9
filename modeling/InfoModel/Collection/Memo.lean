import InfoModel.Text.Quoted

/-!
# Cells that are filled once

A cell remembers the outcome of a computation that may fail. The first access runs the computation
and keeps what it gave, success and failure alike; every later access gives the same outcome and
runs nothing.
-/

namespace InfoModel

/-- A cell for the outcome of a computation, empty until its first access. -/
structure Memo (ε α : Type) where
  outcome? : Option (Except ε α)

namespace Memo
variable {ε α : Type}

def fresh : Memo ε α := ⟨none⟩

def isFilled (m : Memo ε α) : Bool := m.outcome?.isSome

/-- The outcome of an access, the cell after it, and whether the computation ran. -/
def access (m : Memo ε α) (compute : Unit → Except ε α) : Except ε α × Memo ε α × Bool :=
  match m.outcome? with
  | some outcome => (outcome, m, false)
  | none =>
    let outcome := compute ()
    (outcome, ⟨some outcome⟩, true)

theorem access_filled {m : Memo ε α} {outcome : Except ε α} (h : m.outcome? = some outcome)
    (compute : Unit → Except ε α) : m.access compute = (outcome, m, false) := by
  simp [access, h]

theorem outcome?_access (m : Memo ε α) (compute : Unit → Except ε α) :
    (m.access compute).2.1.outcome? = some (m.access compute).1 := by
  unfold access
  split <;> simp_all

def stateText (m : Memo String Int) : String :=
  match m.outcome? with
  | none => "Lazy(<uninit>)"
  | some (.ok n) => "Lazy(" ++ Text.intText n ++ ")"
  | some (.error e) => "Lazy::Failed(" ++ Text.quoted e ++ ")"

end Memo

end InfoModel

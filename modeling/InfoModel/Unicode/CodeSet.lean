/-!
# Sets of code points

A set of code points is kept as the list of the inclusive intervals that make it up. The intervals
may overlap and stand in any order: membership asks each in turn, and the operations below are
defined interval by interval.
-/

namespace InfoModel.Unicode

/-- A set of code points, as a list of inclusive intervals. -/
structure CodeSet where
  intervals : List (Nat × Nat)
deriving Repr, DecidableEq

namespace CodeSet

def containsCode (s : CodeSet) (n : Nat) : Bool :=
  s.intervals.any fun i => decide (i.1 ≤ n) && decide (n ≤ i.2)

def contains (s : CodeSet) (c : Char) : Bool := s.containsCode c.toNat

def empty : CodeSet := ⟨[]⟩

def maxCode : Nat := 0x10FFFF

def full : CodeSet := ⟨[(0, maxCode)]⟩

def singleton (c : Char) : CodeSet := ⟨[(c.toNat, c.toNat)]⟩

def range (lo hi : Char) : CodeSet := ⟨[(lo.toNat, hi.toNat)]⟩

def union (s t : CodeSet) : CodeSet := ⟨s.intervals ++ t.intervals⟩

def unionAll (sets : List CodeSet) : CodeSet := ⟨sets.flatMap intervals⟩

def cutInterval (i cut : Nat × Nat) : List (Nat × Nat) :=
  if cut.2 < i.1 ∨ i.2 < cut.1 then [i]
  else
    (if i.1 < cut.1 then [(i.1, cut.1 - 1)] else []) ++
      (if cut.2 < i.2 then [(cut.2 + 1, i.2)] else [])

def difference (s t : CodeSet) : CodeSet :=
  ⟨t.intervals.foldl (fun left cut => left.flatMap fun i => cutInterval i cut) s.intervals⟩

def complement (s : CodeSet) : CodeSet := full.difference s

def intersection (s t : CodeSet) : CodeSet :=
  ⟨s.intervals.flatMap fun i => t.intervals.filterMap fun j =>
    let lo := max i.1 j.1
    let hi := min i.2 j.2
    if lo ≤ hi then some (lo, hi) else none⟩

def symmetricDifference (s t : CodeSet) : CodeSet :=
  (s.difference t).union (t.difference s)

def isAscii (s : CodeSet) : Bool := s.intervals.all fun i => decide (i.2 < 128)

theorem containsCode_union (s t : CodeSet) (n : Nat) :
    (s.union t).containsCode n = (s.containsCode n || t.containsCode n) := by
  simp [containsCode, union, List.any_append]

/-! ### Written form

An interval is written `41-5A` and a single code point `AA`, in hexadecimal; items are separated by
single spaces. -/

def hexDigit (c : Char) : Nat :=
  if c.toNat < 65 then c.toNat - 48 else c.toNat - 55

def hexValue (text : String) : Nat :=
  text.toList.foldl (fun n c => n * 16 + hexDigit c) 0

/-- The interval written as `item`. -/
def intervalOf (item : String) : Nat × Nat :=
  match item.splitOn "-" with
  | [lo, hi] => (hexValue lo, hexValue hi)
  | _ => (hexValue item, hexValue item)

/-- The set written as rows of intervals. -/
def ofRows (rows : List String) : CodeSet :=
  ⟨rows.flatMap fun row => (row.splitOn " ").map intervalOf⟩

end CodeSet

/-- A set of code points in its written form, with the names it goes by. -/
structure NamedSet where
  names : List String
  rows : List String

def NamedSet.lookup (table : List NamedSet) (name : String) : Option CodeSet :=
  (table.find? fun s => s.names.contains name).map fun s => CodeSet.ofRows s.rows

end InfoModel.Unicode

import InfoModel.Name.QName
import InfoModel.Proofs.Unicode.Written

namespace InfoModel
open InfoModel.Text InfoModel.Unicode

def rowAvoids (codes : List Nat) (row : List Char) : Bool :=
  (pieces ' ' row).all fun item =>
    let i := itemInterval item
    codes.all fun n => n < i.1 || i.2 < n

/-- None of the code points is in a set. -/
def Avoids (codes : List Nat) (s : CodeSet) : Prop := ∀ n ∈ codes, s.containsCode n = false

theorem avoids_nil (codes : List Nat) : Avoids codes (CodeSet.ofRows []) := fun _ _ => rfl

theorem avoids_cons {codes : List Nat} {row : List Char} {rows : List String}
    (hrow : rowAvoids codes row = true) (hrows : Avoids codes (CodeSet.ofRows rows)) :
    Avoids codes (CodeSet.ofRows (String.ofList row :: rows)) := by
  intro n hn
  have hsep : " " = String.ofList [' '] := rfl
  have hsplit : CodeSet.ofRows (String.ofList row :: rows) =
      (⟨(pieces ' ' row).map itemInterval⟩ : CodeSet).union (CodeSet.ofRows rows) := by
    unfold CodeSet.ofRows CodeSet.union
    rw [List.flatMap_cons, hsep, splitOn_ofList, List.map_map]
    simp only [Function.comp_def, intervalOf_ofList]
  rw [hsplit, CodeSet.containsCode_union, hrows n hn, Bool.or_false]
  unfold rowAvoids at hrow
  rw [List.all_eq_true] at hrow
  unfold CodeSet.containsCode
  rw [List.any_eq_false]
  intro i hi
  obtain ⟨item, hitem, rfl⟩ := List.mem_map.mp hi
  have hout := List.all_eq_true.mp (hrow item hitem) n hn
  simp only [Bool.or_eq_true, decide_eq_true_eq] at hout
  simp only [Bool.and_eq_true, decide_eq_true_eq]
  omega

theorem avoids_lookup {codes : List Nat} {table : List NamedSet} {name : String}
    {names rows : List String}
    (hfind : table.find? (fun s => s.names.contains name) = some ⟨names, rows⟩)
    (hrows : Avoids codes (CodeSet.ofRows rows)) :
    Avoids codes (NamedSet.lookup table name |>.getD CodeSet.empty) := by
  unfold NamedSet.lookup
  rw [hfind]
  exact hrows

theorem avoids_unionAll {codes : List Nat} {sets : List CodeSet}
    (h : ∀ s ∈ sets, Avoids codes s) : Avoids codes (CodeSet.unionAll sets) := by
  intro n hn
  unfold CodeSet.containsCode CodeSet.unionAll
  rw [List.any_flatMap, List.any_eq_false]
  intro s hs
  rw [Bool.not_eq_true]
  exact h s hs n hn

def wideBlanks : List Nat :=
  [0x85, 0xA0, 0x1680, 0x2000, 0x2001, 0x2002, 0x2003, 0x2004, 0x2005, 0x2006, 0x2007, 0x2008,
    0x2009, 0x200A, 0x2028, 0x2029, 0x202F, 0x205F, 0x3000]

-- the tables are gone through row by row, since a text of their size is too long to be evaluated

theorem avoids_alphabetic : Avoids wideBlanks alphabetic := by
  refine avoids_lookup (by rfl) ?_
  repeat with_reducible refine avoids_cons (by decide +kernel) ?_
  exact avoids_nil wideBlanks

theorem avoids_numeric : Avoids wideBlanks numeric := by
  refine avoids_unionAll ?_
  intro s hs
  simp only [List.map_cons, List.map_nil, List.mem_cons, List.not_mem_nil, or_false] at hs
  rcases hs with rfl | rfl | rfl
  all_goals
    refine avoids_lookup (by rfl) ?_
    repeat with_reducible refine avoids_cons (by decide +kernel) ?_
    exact avoids_nil wideBlanks

theorem blank_cases {c : Char} (h : isBlank c = true) :
    c.toNat ∈ wideBlanks ∨ c.toNat ∈ [9, 10, 11, 12, 13, 32] := by
  unfold isBlank at h
  simp only [Bool.or_eq_true, Bool.and_eq_true, decide_eq_true_eq, beq_iff_eq] at h
  simp only [wideBlanks, List.mem_cons, List.not_mem_nil, or_false]
  omega

/-- No blank is a character of names. -/
theorem isNamePart_eq_false_of_isBlank {c : Char} (h : isBlank c = true) :
    isNamePart c = false := by
  rcases blank_cases h with hc | hc
  · have hwide : 128 ≤ c.toNat := by
      have hall : ∀ n ∈ wideBlanks, 128 ≤ n := by decide
      exact hall _ hc
    have hmarks : c ≠ '_' ∧ c ≠ '-' ∧ c ≠ '.' := by
      refine ⟨?_, ?_, ?_⟩ <;> rintro rfl <;> exact absurd hwide (by decide)
    unfold isNamePart isAlphanumeric CodeSet.contains
    simp [avoids_alphabetic _ hc, avoids_numeric _ hc, hmarks, Nat.not_lt.mpr hwide]
  · have hall : ∀ n ∈ [9, 10, 11, 12, 13, 32], isNamePart (Char.ofNat n) = false := by decide
    have hname := hall _ hc
    rwa [Char.ofNat_toNat] at hname

end InfoModel

import InfoModel.Proofs.Value.Decimal
import Mathlib.Data.List.Induction
import Mathlib.Data.Nat.Digits.Defs

/-!
# Integers by their form

An integer is written as digits in base ten, however many, after at most one sign. The datatypes
with a least value take the integers that are not below it, and a decimal without a point is an
integer. Main statement: `Datatype.integers_byForm`.
-/

namespace InfoModel
open InfoModel.Text InfoModel.Unicode

variable {cs ds : List Char} {n : Nat} {k : Int}

/-- The sum of the digits, each times the power of ten of its place. -/
def placeValue (ds : List Char) : Nat := Nat.ofDigits 10 (ds.reverse.map digitValue)

theorem placeValue_concat (ds : List Char) (c : Char) :
    placeValue (ds ++ [c]) = 10 * placeValue ds + digitValue c := by
  unfold placeValue
  rw [List.reverse_append, List.reverse_singleton, List.singleton_append, List.map_cons,
    Nat.ofDigits_cons, Nat.add_comm]

theorem ofDigitChars_concat (ds : List Char) (c : Char) :
    Nat.ofDigitChars 10 (ds ++ [c]) 0 = 10 * Nat.ofDigitChars 10 ds 0 + digitValue c := by
  rw [← digitsValue_eq_ofDigitChars, ← digitsValue_eq_ofDigitChars]
  unfold digitsValue
  rw [List.foldl_append, Nat.mul_comm]
  rfl

/-- By induction on the digits from the last one, reading them from the first one gives the sum of
their place values. -/
theorem ofDigitChars_eq_placeValue (ds : List Char) : Nat.ofDigitChars 10 ds 0 = placeValue ds := by
  induction ds using List.reverseRecOn with
  | nil => rfl
  | append_singleton ds c ih => rw [ofDigitChars_concat, placeValue_concat, ih]

/-- An integer in parts: its sign and its digits. -/
structure IntegerForm where
  sign : Option Char
  digits : List Char

namespace IntegerForm

def written (f : IntegerForm) : List Char := f.sign.toList ++ f.digits

structure Proper (f : IntegerForm) : Prop where
  sign : IsSign f.sign
  digits : ∀ c ∈ f.digits, c.isDigit = true
  nonempty : f.digits ≠ []

def meaning (f : IntegerForm) : Int := signed f.sign (placeValue f.digits)

end IntegerForm

theorem readInt?_eq_some_iff_form : readInt? cs = some k ↔
    ∃ f : IntegerForm, f.Proper ∧ f.written = cs ∧ f.meaning = k := by
  rw [readInt?_eq_some_iff]
  constructor
  · rintro ⟨sign, ds, n, hsign, rfl, hn, rfl⟩
    refine ⟨⟨sign, ds⟩, ⟨hsign, hn.digits, hn.nonempty⟩, rfl, ?_⟩
    unfold IntegerForm.meaning
    rw [← ofDigitChars_eq_placeValue, hn.value]
  · rintro ⟨f, hf, rfl, rfl⟩
    exact ⟨f.sign, f.digits, _, hf.sign, rfl,
      ⟨hf.nonempty, hf.digits, ofDigitChars_eq_placeValue f.digits⟩, rfl⟩

/-- An integer is a decimal without a point. -/
theorem readInt?_eq_some_iff_decimal :
    readInt? cs = some k ↔ '.' ∉ cs ∧ Decimal.parse cs = some ⟨k, 0⟩ := by
  have hparse : '.' ∉ cs → (Decimal.parse cs = some ⟨k, 0⟩ ↔ readInt? cs = some k) := by
    intro hfree
    rw [Decimal.parse_eq_some_iff_of_point (Decimal.withoutPoint_of_not_mem hfree)]
    simp
  constructor
  · intro h
    have hfree : '.' ∉ cs := by
      obtain ⟨sign, ds, n, hsign, rfl, hn, -⟩ := readInt?_eq_some_iff.mp h
      rw [List.mem_append, not_or]
      refine ⟨?_, hn.not_mem (by decide)⟩
      intro hdot
      exact absurd (hsign '.' (Option.mem_toList.mp hdot)) (by decide)
    exact ⟨hfree, (hparse hfree).mpr h⟩
  · exact fun h => (hparse h.1).mp h.2

namespace Datatype

variable {d : Datatype} {text : String} {v : Value}

theorem readInteger_eq_ok_iff : d.readInteger cs = .ok k ↔ readInt? cs = some k := by
  unfold readInteger orRefuse
  cases readInt? cs with
  | none => exact ⟨fun h => (nomatch h), fun h => (nomatch h)⟩
  | some k' => simp

theorem integer_parse_eq_ok_iff : integer.parse text = .ok v ↔
    ∃ k, readInt? (trimChars text.toList) = some k ∧ v = .integer k := by
  show (integer.readInteger (trimChars text.toList)).map Value.integer = .ok v ↔ _
  rw [Except.map_eq_ok_iff]
  exact exists_congr fun k => and_congr readInteger_eq_ok_iff eq_comm

theorem readBounded_eq_ok_iff {least : Int} {cause : ValueFault} {lexical : String} :
    (d.readBounded least cause lexical cs).map Value.integer = .ok v ↔
      ∃ k, least ≤ k ∧ readInt? cs = some k ∧ v = .integer k := by
  rw [Except.map_eq_ok_iff]
  refine exists_congr fun k => ?_
  have hbounded : d.readBounded least cause lexical cs = .ok k ↔
      least ≤ k ∧ readInt? cs = some k := by
    unfold readBounded
    rw [← readInteger_eq_ok_iff (d := d)]
    cases d.readInteger cs with
    | error e => simp
    | ok k' =>
      by_cases hk : least ≤ k'
      · simp only [if_pos hk, Except.ok.injEq]
        constructor
        · rintro rfl
          exact ⟨hk, rfl⟩
        · exact fun h => h.2
      · simp only [if_neg hk, refuse]
        constructor
        · intro h
          cases h
        · rintro ⟨hle, ⟨⟩⟩
          exact absurd hle hk
  rw [hbounded, and_assoc, eq_comm (a := v)]

/-- The integer datatype takes the texts that its forms write, blanks around them left out, as what
the forms mean. The datatypes that begin at zero and at one take the same texts as the same
integers, as far as these are not below. The decimals with no point are the integers, with no
places. -/
theorem integers_byForm (text : String) :
    (∀ v, integer.parse text = .ok v ↔ ∃ f : IntegerForm, f.Proper ∧
      f.written = trimChars text.toList ∧ v = .integer f.meaning) ∧
    (∀ v, nonNegativeInteger.parse text = .ok v ↔
      ∃ k, 0 ≤ k ∧ integer.parse text = .ok (.integer k) ∧ v = .integer k) ∧
    (∀ v, positiveInteger.parse text = .ok v ↔
      ∃ k, 1 ≤ k ∧ integer.parse text = .ok (.integer k) ∧ v = .integer k) ∧
    (∀ k, integer.parse text = .ok (.integer k) ↔
      '.' ∉ trimChars text.toList ∧ decimal.parse text = .ok (.decimal ⟨k, 0⟩)) := by
  have hinteger : ∀ k, integer.parse text = .ok (.integer k) ↔
      readInt? (trimChars text.toList) = some k := by
    intro k
    rw [integer_parse_eq_ok_iff]
    simp
  simp only [hinteger]
  refine ⟨?_, fun v => readBounded_eq_ok_iff, fun v => readBounded_eq_ok_iff, ?_⟩
  · intro v
    rw [integer_parse_eq_ok_iff]
    constructor
    · rintro ⟨k, hk, rfl⟩
      obtain ⟨f, hf, hwritten, rfl⟩ := readInt?_eq_some_iff_form.mp hk
      exact ⟨f, hf, hwritten, rfl⟩
    · rintro ⟨f, hf, hwritten, rfl⟩
      exact ⟨_, readInt?_eq_some_iff_form.mpr ⟨f, hf, hwritten, rfl⟩, rfl⟩
  · intro k
    rw [decimal_parse_eq_ok_iff, readInt?_eq_some_iff_decimal]
    simp

/-- A zero with a minus is not below zero. -/
example : nonNegativeInteger.parse " -0 " = .ok (.integer 0) := by rfl

end Datatype

end InfoModel

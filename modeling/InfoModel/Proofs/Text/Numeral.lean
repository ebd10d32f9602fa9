import InfoModel.Proofs.Text.Cut
import InfoModel.Text.Digits

/-!
# Numerals

A numeral is a non-empty run of ASCII digits. It denotes a number in base ten, to which zeros in
front add nothing, and every number has a numeral without such zeros.
-/

namespace InfoModel.Text
open InfoModel.Unicode

variable {cs : List Char} {c : Char} {m n : Nat}

theorem isAsciiDigit_eq_isDigit (c : Char) : isAsciiDigit c = c.isDigit := by
  have hdigit : isAsciiDigit c = true ↔ c.isDigit = true := by
    unfold isAsciiDigit
    rw [Bool.and_eq_true, decide_eq_true_eq, decide_eq_true_eq, Char.isDigit_iff_toNat]
    rfl
  exact Bool.eq_iff_iff.mpr hdigit

theorem isBlank_of_isDigit (h : c.isDigit = true) : isBlank c = false := by
  have hrange : 48 ≤ c.toNat ∧ c.toNat ≤ 57 := Char.isDigit_iff_toNat.mp h
  unfold isBlank
  simp only [Bool.or_eq_false_iff, Bool.and_eq_false_iff, decide_eq_false_iff_not,
    beq_eq_false_iff_ne]
  omega

theorem digitsValue_eq_ofDigitChars (cs : List Char) :
    digitsValue cs = Nat.ofDigitChars 10 cs 0 := by
  unfold digitsValue Nat.ofDigitChars
  congr 1
  funext n c
  rw [Nat.mul_comm]
  rfl

/-- The text is a non-empty run of ASCII digits and denotes the number in base ten. -/
structure Numeral (cs : List Char) (n : Nat) : Prop where
  nonempty : cs ≠ []
  digits : ∀ c ∈ cs, c.isDigit = true
  value : Nat.ofDigitChars 10 cs 0 = n

theorem natOfDigits?_eq_some_iff : natOfDigits? cs = some n ↔ Numeral cs n := by
  have hrun : isDigits cs = true ↔ cs ≠ [] ∧ ∀ c ∈ cs, c.isDigit = true := by
    unfold isDigits
    simp [isAsciiDigit_eq_isDigit]
  unfold natOfDigits?
  by_cases h : isDigits cs = true
  · rw [if_pos h, digitsValue_eq_ofDigitChars]
    obtain ⟨hne, hdigits⟩ := hrun.mp h
    constructor
    · intro hvalue
      exact ⟨hne, hdigits, Option.some.inj hvalue⟩
    · intro hnumeral
      rw [hnumeral.value]
  · rw [if_neg h]
    constructor
    · intro hvalue
      cases hvalue
    · intro hnumeral
      exact absurd (hrun.mpr ⟨hnumeral.nonempty, hnumeral.digits⟩) h

theorem natOfDigits?_eq_none_iff : natOfDigits? cs = none ↔ ∀ n, ¬ Numeral cs n := by
  rw [Option.eq_none_iff_forall_ne_some]
  exact forall_congr' fun n => not_congr natOfDigits?_eq_some_iff

namespace Numeral

theorem unique (hm : Numeral cs m) (hn : Numeral cs n) : m = n :=
  hm.value.symm.trans hn.value

theorem zero_cons (h : Numeral cs n) : Numeral ('0' :: cs) n where
  nonempty := List.cons_ne_nil '0' cs
  digits := List.forall_mem_cons.mpr ⟨by decide, h.digits⟩
  value := by
    rw [Nat.ofDigitChars_cons]
    exact h.value

theorem not_mem (h : Numeral cs n) (hc : c.isDigit = false) : c ∉ cs := by
  intro hmem
  rw [h.digits c hmem] at hc
  cases hc

theorem trimChars_eq (h : Numeral cs n) : trimChars cs = cs :=
  trimChars_eq_self (fun c hc => isBlank_of_isDigit (h.digits c (List.mem_of_head? hc)))
    fun c hc => isBlank_of_isDigit (h.digits c (List.mem_of_getLast? hc))

end Numeral

theorem numeral_natText (n : Nat) : Numeral (natText n).toList n := by
  unfold natText digitsOf
  rw [String.toList_ofList]
  exact ⟨Nat.toDigits_ne_nil, fun c hc => Nat.isDigit_of_mem_toDigits (by decide) (by decide) hc,
    Nat.ofDigitChars_toDigits (by decide) (by decide)⟩

end InfoModel.Text

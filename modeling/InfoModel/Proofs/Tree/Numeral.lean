import InfoModel.Proofs.Text.Numeral
import InfoModel.Tree.Reader

/-!
# Numbers in documents

A number in a document ends where a gap or a mark of a list or record stands, or the text; what
follows has no part in what is read. The digits of an integer of at most 64 bits, after a minus
where it is negative, are read as that integer. Main statements: `Tree.readNumber_append`,
`Tree.readNumber_intText`.
-/

namespace InfoModel
open Text Unicode Number

/-- A run that ends within a text, or at its end because what follows cannot go on with it, is the
same whatever follows. -/
theorem run_append {p : Char → Bool} {rest : List Char}
    (h : ∀ c, rest.head? = some c → p c = false) (cs : List Char) :
    (cs ++ rest).takeWhile p = cs.takeWhile p ∧
      (cs ++ rest).dropWhile p = cs.dropWhile p ++ rest := by
  induction cs with
  | nil =>
    cases rest with
    | nil => exact ⟨rfl, rfl⟩
    | cons c rest => simp [h c rfl]
  | cons c cs ih =>
    by_cases hc : p c = true
    · simpa [hc] using ih
    · simp [hc]

theorem run_of_all {p : Char → Bool} {cs : List Char} (h : ∀ c ∈ cs, p c = true) :
    cs.takeWhile p = cs ∧ cs.dropWhile p = [] := by
  have hrun : (cs ++ []).takeWhile p = cs ++ [].takeWhile p := List.takeWhile_append_of_pos h
  have hrest : (cs ++ []).dropWhile p = [].dropWhile p := List.dropWhile_append_of_pos h
  simpa using And.intro hrun hrest

theorem head?_toDigits {n : Nat} (hn : 0 < n) : (Nat.toDigits 10 n).head? ≠ some '0' := by
  induction n using Nat.strongRecOn with
  | ind n ih =>
    by_cases hlt : n < 10
    · rw [Nat.toDigits_of_lt_base hlt]
      have hdigit : ∀ k < 10, 0 < k → [Nat.digitChar k].head? ≠ some '0' := by decide
      exact hdigit n hlt hn
    · have hge : 10 ≤ n := Nat.not_lt.mp hlt
      rw [Nat.toDigits_of_base_le (by decide) hge, List.head?_append,
        List.head?_eq_some_head Nat.toDigits_ne_nil, Option.some_or, ← List.head?_eq_some_head]
      exact ih (n / 10) (Nat.div_lt_self hn (by decide)) (by omega)

namespace Tree

variable {cs rest : List Char}

/-- The text cannot go on with a number: it is at its end, or begins with a gap or a mark. -/
def Ends (rest : List Char) : Prop :=
  ∀ c, rest.head? = some c → isGap c = true ∨ c = ',' ∨ c = ']' ∨ c = '\x7d'

theorem Ends.head (h : Ends rest) {c : Char} (hc : rest.head? = some c) :
    isAsciiDigit c = false ∧ c ≠ '.' ∧ c ≠ 'e' ∧ c ≠ 'E' := by
  have hgap : isGap c = true → c = ' ' ∨ c = '\t' ∨ c = '\n' ∨ c = '\x0d' := by
    unfold isGap
    simp [or_assoc]
  rcases h c hc with hg | rfl | rfl | rfl
  · rcases hgap hg with rfl | rfl | rfl | rfl <;> decide
  all_goals decide

theorem cutMinus_append (hcs : cs ≠ []) (rest : List Char) :
    cutMinus (cs ++ rest) = ((cutMinus cs).1, (cutMinus cs).2 ++ rest) := by
  obtain ⟨c, cs, rfl⟩ := List.exists_cons_of_ne_nil hcs
  rw [List.cons_append]
  unfold cutMinus
  split
  · next h =>
    obtain ⟨rfl, rfl⟩ := List.cons_eq_cons.mp h
    rfl
  · next h =>
    have hc : c ≠ '-' := fun hc => h (cs ++ rest) (hc ▸ rfl)
    simp [hc]

theorem cutSign_append (hcs : cs ≠ []) (rest : List Char) :
    cutSign (cs ++ rest) = ((cutSign cs).1, (cutSign cs).2 ++ rest) := by
  obtain ⟨c, cs, rfl⟩ := List.exists_cons_of_ne_nil hcs
  unfold cutSign
  rw [List.cons_append]
  split
  · next h =>
    obtain ⟨rfl, rfl⟩ := List.cons_eq_cons.mp h
    rfl
  · next h =>
    have hc : c ≠ '+' := fun hc => h (cs ++ rest) (hc ▸ rfl)
    rw [← List.cons_append, cutMinus_append hcs]
    simp [hc]

variable {r ds : List Char}

theorem readDigits_append (h : readDigits cs = some (ds, r)) (hrest : Ends rest) :
    readDigits (cs ++ rest) = some (ds, r ++ rest) := by
  obtain ⟨htake, hdrop⟩ := run_append (fun _ hc => (hrest.head hc).1) cs
  unfold readDigits at h ⊢
  rw [htake, hdrop]
  dsimp only at h ⊢
  split at h
  · cases h
  · next hds =>
    cases h
    rw [if_neg hds]

theorem readWhole_append (h : readWhole cs = some (ds, r)) (hrest : Ends rest) :
    readWhole (cs ++ rest) = some (ds, r ++ rest) := by
  obtain ⟨⟨ds', r'⟩, hdigits, h⟩ := Option.bind_eq_some_iff.mp h
  unfold readWhole
  rw [readDigits_append hdigits hrest]
  dsimp only [Option.bind_eq_bind, Option.bind_some] at h ⊢
  split at h
  · cases h
  · next hzero =>
    cases h
    rw [if_neg hzero]

theorem readPlaces_append {places : Option (List Char)} (h : readPlaces cs = some (places, r))
    (hrest : Ends rest) : readPlaces (cs ++ rest) = some (places, r ++ rest) := by
  unfold readPlaces at h
  split at h
  · next cs =>
    obtain ⟨⟨ds, r'⟩, hdigits, h⟩ := Option.map_eq_some_iff.mp h
    cases h
    show (readDigits (cs ++ rest)).map _ = _
    rw [readDigits_append hdigits hrest]
    rfl
  · next hpoint =>
    cases h
    unfold readPlaces
    split
    · next cs' h =>
      cases cs with
      | nil => exact absurd rfl (hrest.head (by rw [show rest = _ from h]; rfl)).2.1
      | cons c cs =>
        obtain ⟨rfl, -⟩ := List.cons_eq_cons.mp h
        exact absurd rfl (hpoint cs)
    · rfl

theorem readExponent_append {exponent : Option Int} (h : readExponent cs = some (exponent, r))
    (hrest : Ends rest) : readExponent (cs ++ rest) = some (exponent, r ++ rest) := by
  cases cs with
  | nil =>
    cases h
    cases rest with
    | nil => rfl
    | cons c rest =>
      obtain ⟨-, -, he, hE⟩ := hrest.head rfl
      simp [readExponent, he, hE]
  | cons c cs =>
    rw [List.cons_append]
    unfold readExponent at h ⊢
    dsimp only at h ⊢
    split at h
    · next hc =>
      obtain ⟨⟨ds, r'⟩, hdigits, h⟩ := Option.map_eq_some_iff.mp h
      cases h
      have hcs : cs ≠ [] := by
        rintro rfl
        cases hdigits
      rw [if_pos hc, cutSign_append hcs, readDigits_append hdigits hrest]
      rfl
    · next hc =>
      rw [if_neg hc]
      cases h
      rfl

theorem readNumber_eq_some_iff {t : Tree} : readNumber cs = some (t, r) ↔
    ∃ whole cs₁ places cs₂ exponent, readWhole (cutMinus cs).2 = some (whole, cs₁) ∧
      readPlaces cs₁ = some (places, cs₂) ∧ readExponent cs₂ = some (exponent, r) ∧
      ofNumber (cutMinus cs).1 whole places exponent = t := by
  unfold readNumber
  simp only [Option.bind_eq_bind, Option.bind_eq_some_iff, Prod.exists, Option.pure_def,
    Option.some.injEq, Prod.mk.injEq]
  constructor
  · rintro ⟨whole, cs₁, hwhole, places, cs₂, hplaces, exponent, cs₃, hexponent, ht, rfl⟩
    exact ⟨whole, cs₁, places, cs₂, exponent, hwhole, hplaces, hexponent, ht⟩
  · rintro ⟨whole, cs₁, places, cs₂, exponent, hwhole, hplaces, hexponent, ht⟩
    exact ⟨whole, cs₁, hwhole, places, cs₂, hplaces, exponent, r, hexponent, ht, rfl⟩

theorem readNumber_append {t : Tree} (h : readNumber cs = some (t, r)) (hrest : Ends rest) :
    readNumber (cs ++ rest) = some (t, r ++ rest) := by
  have hcs : cs ≠ [] := by
    rintro rfl
    cases h
  obtain ⟨whole, cs₁, places, cs₂, exponent, hwhole, hplaces, hexponent, ht⟩ :=
    readNumber_eq_some_iff.mp h
  refine readNumber_eq_some_iff.mpr ⟨whole, cs₁ ++ rest, places, cs₂ ++ rest, exponent, ?_,
    readPlaces_append hplaces hrest, readExponent_append hexponent hrest, ?_⟩
  · rw [cutMinus_append hcs]
    exact readWhole_append hwhole hrest
  · rw [cutMinus_append hcs]
    exact ht

/-- The integers of at most 64 bits, with or without a sign. -/
def FitsWord (n : Int) : Prop := -9223372036854775808 ≤ n ∧ n < 18446744073709551616

instance : DecidablePred FitsWord := fun _ => inferInstanceAs (Decidable (_ ∧ _))

theorem readWhole_natText (n : Nat) :
    readWhole (natText n).toList = some ((natText n).toList, []) := by
  have hnumeral := numeral_natText n
  have hdigit : ∀ c ∈ (natText n).toList, isAsciiDigit c = true := fun c hc =>
    (isAsciiDigit_eq_isDigit c).trans (hnumeral.digits c hc)
  have hdigits : readDigits (natText n).toList = some ((natText n).toList, []) := by
    obtain ⟨htake, hdrop⟩ := run_of_all hdigit
    unfold readDigits
    rw [htake, hdrop]
    simp [hnumeral.nonempty]
  have hzero : ¬((natText n).toList.head? == some '0' &&
      decide (1 < (natText n).toList.length)) := by
    unfold natText digitsOf
    rw [String.toList_ofList]
    rcases Nat.eq_zero_or_pos n with rfl | hn
    · decide
    · simp [head?_toDigits hn]
  unfold readWhole
  rw [hdigits]
  exact if_neg hzero

theorem cutMinus_natText (n : Nat) : cutMinus (natText n).toList = (false, (natText n).toList) := by
  unfold cutMinus
  split
  · next cs h =>
    have hmem : '-' ∈ (natText n).toList := h ▸ List.mem_cons_self
    exact absurd hmem ((numeral_natText n).not_mem (by decide))
  · rfl

/-- The digits of an integer that fits a word are read as the integer. -/
theorem readNumber_intText {n : Int} (hn : FitsWord n) :
    readNumber (intText n).toList = some (.integer n, []) := by
  obtain ⟨hleast, hbound⟩ := hn
  have hvalue : digitsValue (natText n.natAbs).toList = n.natAbs := by
    rw [digitsValue_eq_ofDigitChars]
    exact (numeral_natText _).value
  refine readNumber_eq_some_iff.mpr
    ⟨(natText n.natAbs).toList, [], none, [], none, ?_, rfl, rfl, ?_⟩
  · unfold intText
    split
    · rw [String.toList_append]
      exact readWhole_natText _
    · rw [cutMinus_natText]
      exact readWhole_natText _
  · show ofInteger (cutMinus (intText n).toList).1 (digitsValue (natText n.natAbs).toList) = _
    rw [hvalue]
    unfold intText ofInteger
    split
    · next hneg =>
      rw [String.toList_append]
      have hword : 0 < n.natAbs ∧ n.natAbs ≤ 9223372036854775808 := by omega
      show (if 0 < n.natAbs ∧ n.natAbs ≤ 9223372036854775808 then _ else _) = _
      rw [if_pos hword]
      congr 1
      omega
    · next hpos =>
      rw [cutMinus_natText]
      have hword : n.natAbs < UInt64.size := by
        unfold UInt64.size
        omega
      show (if n.natAbs < UInt64.size then _ else _) = _
      rw [if_pos hword]
      congr 1
      omega

end Tree

end InfoModel

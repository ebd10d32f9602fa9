import InfoModel.Occurrence
import InfoModel.Proofs.Text.Numeral

/-!
# Bounds on occurrences

A bound is the word `unbounded` or a numeral below two to the 32nd, blanks around it aside, and is
read back from its written form. Bounds that go together admit a count that is at least one and at
least the lower bound. Main statements: `MaxOccurs.parse_eq_ok_iff`, `MaxOccurs.parse_eq_error_iff`,
`Occurrence.parse_eq_ok_iff`, `Occurrence.Sound.admits`.
-/

namespace InfoModel
open InfoModel.Text

section
variable {cs : List Char} {n : Nat} {k : UInt32} {cause : OccurrenceFault}

theorem readCount_of_numeral (h : Numeral cs n) :
    readCount cs = if n < UInt32.size then .ok (UInt32.ofNat n) else .error .tooLarge := by
  unfold readCount
  rw [natOfDigits?_eq_some_iff.mpr h]

theorem readCount_of_not_numeral (h : ∀ n, ¬ Numeral cs n) : readCount cs = .error .notBound := by
  unfold readCount
  rw [natOfDigits?_eq_none_iff.mpr h]

theorem readCount_eq_ok_iff : readCount cs = .ok k ↔ Numeral cs k.toNat := by
  constructor
  · intro h
    by_cases hcs : ∃ n, Numeral cs n
    · obtain ⟨n, hn⟩ := hcs
      rw [readCount_of_numeral hn] at h
      split at h
      · rename_i hlt
        have hk : n = k.toNat := by
          rw [← Except.ok.inj h, UInt32.toNat_ofNat_of_lt' hlt]
        rwa [hk] at hn
      · cases h
    · rw [readCount_of_not_numeral (not_exists.mp hcs)] at h
      cases h
  · intro h
    have hlt : k.toNat < UInt32.size := k.toNat_lt_size
    rw [readCount_of_numeral h, if_pos hlt, UInt32.ofNat_toNat]

theorem readCount_eq_error_iff : readCount cs = .error cause ↔
    (∃ n, UInt32.size ≤ n ∧ Numeral cs n) ∧ cause = .tooLarge ∨
      (∀ n, ¬ Numeral cs n) ∧ cause = .notBound := by
  by_cases hcs : ∃ n, Numeral cs n
  · obtain ⟨n, hn⟩ := hcs
    have hsize : (∃ n, UInt32.size ≤ n ∧ Numeral cs n) ↔ UInt32.size ≤ n := by
      constructor
      · rintro ⟨m, hm, hmn⟩
        rwa [hmn.unique hn] at hm
      · intro h
        exact ⟨n, h, hn⟩
    have hsome : ¬ ∀ n, ¬ Numeral cs n := fun h => h n hn
    rw [readCount_of_numeral hn, hsize]
    by_cases hlt : n < UInt32.size
    · have hnot : ¬ UInt32.size ≤ n := Nat.not_le_of_lt hlt
      simp [hlt, hsome, hnot]
    · simp [hlt, hsome, Nat.le_of_not_lt hlt, eq_comm]
  · have hnone := not_exists.mp hcs
    rw [readCount_of_not_numeral hnone]
    simp [hnone, eq_comm]

end

namespace MaxOccurs
variable {s : String} {m n : UInt32} {b : MaxOccurs} {e : Fault}

theorem parse_eq (s : String) :
    parse s =
      if trim s = "unbounded" then .ok .unbounded
      else match readCount (trim s).toList with
        | .ok n => .ok (.bounded n)
        | .error cause => .error (.invalidOccurrence (trim s) cause) := by
  have hchars : (trim s).toList = trimChars s.toList := String.toList_ofList
  have hword : trimChars s.toList = "unbounded".toList ↔ trim s = "unbounded" := by
    rw [← hchars, String.toList_inj]
  unfold parse
  simp only [hword, hchars]
  rfl

theorem not_numeral_of_unbounded (h : trim s = "unbounded") (n : Nat) :
    ¬ Numeral (trim s).toList n := by
  rw [h]
  intro hn
  exact absurd (hn.digits 'u' (by decide)) (by decide)

theorem parse_eq_unbounded_iff : parse s = .ok .unbounded ↔ trim s = "unbounded" := by
  rw [parse_eq]
  by_cases h : trim s = "unbounded"
  · simp [h]
  · rw [if_neg h]
    cases readCount (trim s).toList with
    | ok n => simp [h]
    | error cause => simp [h]

theorem parse_eq_bounded_iff : parse s = .ok (.bounded n) ↔ Numeral (trim s).toList n.toNat := by
  rw [parse_eq]
  by_cases h : trim s = "unbounded"
  · simp [if_pos h, not_numeral_of_unbounded h]
  · rw [if_neg h, ← readCount_eq_ok_iff]
    cases readCount (trim s).toList with
    | ok k => simp
    | error cause => simp

/-- The text, trimmed, is the word or a numeral of the bound. -/
def WrittenAs (s : String) : MaxOccurs → Prop
  | .unbounded => trim s = "unbounded"
  | .bounded n => Numeral (trim s).toList n.toNat

theorem parse_eq_ok_iff : parse s = .ok b ↔ b.WrittenAs s := by
  cases b with
  | unbounded => exact parse_eq_unbounded_iff
  | bounded n => exact parse_eq_bounded_iff

theorem parse_eq_error_iff : parse s = .error e ↔ trim s ≠ "unbounded" ∧
    ((∃ n, UInt32.size ≤ n ∧ Numeral (trim s).toList n) ∧
        e = .invalidOccurrence (trim s) .tooLarge ∨
      (∀ n, ¬ Numeral (trim s).toList n) ∧ e = .invalidOccurrence (trim s) .notBound) := by
  rw [parse_eq]
  by_cases h : trim s = "unbounded"
  · simp [h]
  · rw [if_neg h]
    cases hread : readCount (trim s).toList with
    | ok k =>
      have hk := readCount_eq_ok_iff.mp hread
      have hnone : ¬ ∃ n, UInt32.size ≤ n ∧ Numeral (trim s).toList n := by
        rintro ⟨n, hsize, hn⟩
        have hlt : k.toNat < UInt32.size := k.toNat_lt_size
        have heq := hn.unique hk
        omega
      have hsome : ¬ ∀ n, ¬ Numeral (trim s).toList n := fun hall => hall _ hk
      simp [hnone, hsome]
    | error cause =>
      have hcause := readCount_eq_error_iff.mp hread
      constructor
      · intro he
        cases he
        refine ⟨h, ?_⟩
        rcases hcause with ⟨hlarge, rfl⟩ | ⟨hnone, rfl⟩
        · exact .inl ⟨hlarge, rfl⟩
        · exact .inr ⟨hnone, rfl⟩
      · rintro ⟨-, ⟨hlarge, rfl⟩ | ⟨hnone, rfl⟩⟩
        · have hboth := readCount_eq_error_iff.mpr (.inl ⟨hlarge, rfl⟩)
          rw [hread] at hboth
          rw [Except.error.inj hboth]
        · have hboth := readCount_eq_error_iff.mpr (.inr ⟨hnone, rfl⟩)
          rw [hread] at hboth
          rw [Except.error.inj hboth]

theorem parse_text (b : MaxOccurs) : parse b.text = .ok b := by
  cases b with
  | unbounded => exact parse_eq_unbounded_iff.mpr (by decide)
  | bounded n =>
    have hn : Numeral (countText n).toList n.toNat := numeral_natText n.toNat
    have htrim : trim (countText n) = countText n := by
      unfold trim
      rw [hn.trimChars_eq, String.ofList_toList]
    refine parse_eq_bounded_iff.mpr ?_
    show Numeral (trim (countText n)).toList n.toNat
    rwa [htrim]

theorem flat_bounded (n : UInt32) :
    (bounded n).flat = if n.toNat < 2147483648 then (n.toNat : Int) else 2147483647 := by
  show min (n.toNat : Int) 2147483647 = _
  split <;> omega

theorem flat_eq_neg_one_iff : b.flat = -1 ↔ b = .unbounded := by
  cases b with
  | unbounded => simp [flat]
  | bounded n =>
    have hne : (bounded n).flat ≠ -1 := by
      rw [flat_bounded]
      split <;> omega
    simp [hne]

theorem flat_mono (h : m ≤ n) : (bounded m).flat ≤ (bounded n).flat := by
  have hle : m.toNat ≤ n.toNat := UInt32.le_iff_toNat_le.mp h
  rw [flat_bounded, flat_bounded]
  split <;> split <;> omega

end MaxOccurs

namespace Occurrence
variable {lower : Option UInt32} {upper : Option String} {o : Occurrence}

/-- A numeric upper bound is at least one and not below the lower bound. -/
def Sound (o : Occurrence) : Prop := ∀ n, o.max = .bounded n → 1 ≤ n ∧ o.min ≤ n

theorem make_of_sound {min : UInt32} {max : MaxOccurs} (h : Sound ⟨min, max⟩) :
    make min max = .ok ⟨min, max⟩ := by
  unfold make
  cases max with
  | unbounded => rfl
  | bounded n =>
    obtain ⟨hone, hmin⟩ := h n rfl
    have hzero : n ≠ 0 := by
      rintro rfl
      exact absurd hone (by decide)
    have hless : ¬ n < min := UInt32.not_lt.mpr hmin
    simp only [hzero, hless, if_false]

theorem sound_of_make {min : UInt32} {max : MaxOccurs} (h : make min max = .ok o) :
    o = ⟨min, max⟩ ∧ o.Sound := by
  unfold make at h
  cases max with
  | unbounded =>
    cases h
    exact ⟨rfl, fun n hn => nomatch hn⟩
  | bounded n =>
    dsimp only at h
    by_cases hzero : n = 0
    · rw [if_pos hzero] at h
      cases h
    · rw [if_neg hzero] at h
      by_cases hless : n < min
      · rw [if_pos hless] at h
        cases h
      · rw [if_neg hless] at h
        cases h
        refine ⟨rfl, fun k hk => ?_⟩
        cases hk
        have hne : n.toNat ≠ 0 := fun hn => hzero (UInt32.toNat_inj.mp hn)
        have hone : 1 ≤ n.toNat := by omega
        exact ⟨UInt32.le_iff_toNat_le.mpr hone, UInt32.not_lt.mp hless⟩

theorem parse_eq_ok_iff : parse lower upper = .ok o ↔
    o.min = lower.getD 0 ∧ MaxOccurs.parse (upper.getD "1") = .ok o.max ∧ o.Sound := by
  have hone : MaxOccurs.parse "1" = .ok (.bounded 1) :=
    MaxOccurs.parse_text (.bounded 1)
  have hparse : parse lower upper =
      (MaxOccurs.parse (upper.getD "1")).bind (make (lower.getD 0)) := by
    unfold parse
    cases upper with
    | none =>
      rw [Option.getD_none, hone]
      rfl
    | some s =>
      rw [Option.getD_some]
      dsimp only
      cases MaxOccurs.parse s with
      | ok m => rfl
      | error e => rfl
  rw [hparse]
  cases MaxOccurs.parse (upper.getD "1") with
  | error e => simp [Except.bind]
  | ok m =>
    show make (lower.getD 0) m = .ok o ↔ _
    constructor
    · intro h
      obtain ⟨rfl, hsound⟩ := sound_of_make h
      exact ⟨rfl, rfl, hsound⟩
    · rintro ⟨hmin, hmax, hsound⟩
      cases hmax
      rw [← hmin]
      exact make_of_sound hsound

/-- Sound bounds admit a count that is at least one and at least the lower bound. -/
theorem Sound.admits (h : o.Sound) :
    ∃ count : UInt32, o.max.admits count = true ∧ 1 ≤ count ∧ o.min ≤ count := by
  cases hmax : o.max with
  | bounded n =>
    obtain ⟨hone, hmin⟩ := h n hmax
    exact ⟨n, by simp [MaxOccurs.admits], hone, hmin⟩
  | unbounded =>
    by_cases hmin : 1 ≤ o.min
    · exact ⟨o.min, rfl, hmin, UInt32.le_refl o.min⟩
    · exact ⟨1, rfl, UInt32.le_refl 1, UInt32.le_of_lt (UInt32.not_le.mp hmin)⟩

theorem isRepeatable_iff (o : Occurrence) : o.isRepeatable = true ↔ o.max.admits 2 = true := by
  unfold isRepeatable MaxOccurs.admits
  cases o.max with
  | unbounded => rfl
  | bounded n =>
    simp only [decide_eq_true_eq, UInt32.lt_iff_toNat_lt, UInt32.le_iff_toNat_le]
    rfl

end Occurrence

end InfoModel

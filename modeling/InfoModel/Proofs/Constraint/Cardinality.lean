import InfoModel.Constraint.Compile
import InfoModel.Proofs.Occurrence.Bound
import InfoModel.Proofs.Outcome

/-!
# Bounds of cardinalities

A rule on cardinality compiles if its bounds are well formed and in order, and then it has the
numbers that are written. The lower bound is read on its own, and as an upper bound without the word
is. Main statement: `compileModelRule_cardinality`.
-/

namespace InfoModel
open InfoModel.Text

section
variable {text : String} {n : UInt32} {b : MaxOccurs} {e : ConstraintFault}

theorem compileMin_eq_ok_iff : compileMin text = .ok n ↔ Numeral (trim text).toList n.toNat := by
  unfold compileMin trim
  rw [String.toList_ofList, ← readCount_eq_ok_iff]
  cases readCount (trimChars text.toList) with
  | ok k => simp
  | error cause => cases cause <;> simp

theorem compileMax_eq_ok_iff : compileMax text = .ok b ↔ b.WrittenAs text := by
  unfold compileMax
  rw [← MaxOccurs.parse_eq_ok_iff]
  cases MaxOccurs.parse text with
  | ok m => simp
  | error fault => simp

theorem cause_of_compileMin (h : compileMin text = .error e) :
    ∃ cause, e = .invalidCardinality text cause := by
  unfold compileMin at h
  split at h
  · cases h
  · cases h
    exact ⟨.tooLarge, rfl⟩
  · cases h
    exact ⟨.notCount, rfl⟩

theorem cause_of_compileMax (h : compileMax text = .error e) :
    ∃ cause, e = .invalidCardinality text cause := by
  unfold compileMax at h
  split at h
  · cases h
  · rename_i fault _
    cases h
    exact ⟨.badMax fault, rfl⟩

theorem compileMin_zeros (k : Nat) (n : UInt32) :
    compileMin (String.ofList (List.replicate k '0' ++ (countText n).toList)) = .ok n := by
  have hzeros : Numeral (List.replicate k '0' ++ (countText n).toList) n.toNat := by
    induction k with
    | zero => exact numeral_natText n.toNat
    | succ k ih => exact ih.zero_cons
  refine compileMin_eq_ok_iff.mpr ?_
  unfold trim
  rwa [String.toList_ofList, String.toList_ofList, hzeros.trimChars_eq]

end

section
variable {min max : Option String} {lo : Option UInt32} {hi : Option MaxOccurs}
  {b : Option UInt32 × Option MaxOccurs} {e : ConstraintFault}

def InOrder (lo : Option UInt32) (hi : Option MaxOccurs) : Prop :=
  ∀ m n, lo = some m → hi = some (.bounded n) → m ≤ n

def orderBounds (lo : Option UInt32) (hi : Option MaxOccurs) :
    Except ConstraintFault (Option UInt32 × Option MaxOccurs) :=
  match lo, hi with
  | some m, some (.bounded n) =>
    if n < m then
      .error (.invalidCardinality (countText m ++ ".." ++ countText n) .minExceedsMax)
    else .ok (lo, hi)
  | _, _ => .ok (lo, hi)

theorem compileBounds_eq (min max : Option String) :
    compileBounds min max = min.mapM compileMin >>= fun lo =>
      max.mapM compileMax >>= fun hi => orderBounds lo hi := rfl

theorem orderBounds_cases (lo : Option UInt32) (hi : Option MaxOccurs) :
    InOrder lo hi ∧ orderBounds lo hi = .ok (lo, hi) ∨
      ∃ m n, lo = some m ∧ hi = some (.bounded n) ∧ n < m ∧ orderBounds lo hi =
        .error (.invalidCardinality (countText m ++ ".." ++ countText n) .minExceedsMax) := by
  match lo, hi with
  | none, hi => exact .inl ⟨fun m n hm => (nomatch hm), rfl⟩
  | some m, none => exact .inl ⟨fun m n _ hn => (nomatch hn), rfl⟩
  | some m, some .unbounded => exact .inl ⟨fun m n _ hn => (nomatch hn), rfl⟩
  | some m, some (.bounded n) =>
    by_cases h : n < m
    · exact .inr ⟨m, n, rfl, rfl, h, if_pos h⟩
    · refine .inl ⟨fun m' n' hm hn => ?_, if_neg h⟩
      cases hm
      cases hn
      exact UInt32.not_lt.mp h

theorem orderBounds_eq_ok_iff : orderBounds lo hi = .ok b ↔ (lo, hi) = b ∧ InOrder lo hi := by
  rcases orderBounds_cases lo hi with ⟨horder, hok⟩ | ⟨m, n, rfl, rfl, hlt, herror⟩
  · simp [hok, horder]
  · have hnot : ¬ InOrder (some m) (some (.bounded n)) := fun h =>
      absurd hlt (UInt32.not_lt.mpr (h m n rfl rfl))
    simp [herror, hnot]

theorem compileBounds_eq_ok_iff : compileBounds min max = .ok (lo, hi) ↔
    Option.Rel (fun s m => Numeral (trim s).toList m.toNat) min lo ∧
      Option.Rel (fun t h => h.WrittenAs t) max hi ∧ InOrder lo hi := by
  rw [compileBounds_eq, Except.bind_eq_ok_iff]
  simp only [Except.bind_eq_ok_iff, Except.optionMapM_eq_ok_iff, compileMin_eq_ok_iff,
    compileMax_eq_ok_iff, orderBounds_eq_ok_iff, Prod.mk.injEq]
  constructor
  · rintro ⟨lo', hlo, hi', hhi, ⟨rfl, rfl⟩, horder⟩
    exact ⟨hlo, hhi, horder⟩
  · rintro ⟨hlo, hhi, horder⟩
    exact ⟨lo, hlo, hi, hhi, ⟨rfl, rfl⟩, horder⟩

/-- Bounds are refused with the text of the first that is not well formed, or with both numbers. -/
theorem cause_of_compileBounds (h : compileBounds min max = .error e) :
    ∃ value cause, e = .invalidCardinality value cause ∧ (min = some value ∨ max = some value ∨
      ∃ m n, n < m ∧ value = countText m ++ ".." ++ countText n) := by
  rw [compileBounds_eq, Except.bind_eq_error_iff] at h
  rcases h with h | ⟨lo, -, h⟩
  · obtain ⟨s, rfl, hs⟩ := Except.optionMapM_eq_error_iff.mp h
    obtain ⟨cause, he⟩ := cause_of_compileMin hs
    exact ⟨s, cause, he, .inl rfl⟩
  · rcases Except.bind_eq_error_iff.mp h with h | ⟨hi, -, h⟩
    · obtain ⟨t, rfl, ht⟩ := Except.optionMapM_eq_error_iff.mp h
      obtain ⟨cause, he⟩ := cause_of_compileMax ht
      exact ⟨t, cause, he, .inr (.inl rfl)⟩
    · rcases orderBounds_cases lo hi with ⟨-, hok⟩ | ⟨m, n, -, -, hlt, herror⟩
      · rw [hok] at h
        cases h
      · rw [herror] at h
        cases h
        exact ⟨_, _, rfl, .inr (.inr ⟨m, n, hlt, rfl⟩)⟩

end

/-- The bounds as they are declared: each that is given is a numeral below two to the 32nd, or the
word for no upper bound, and numerals are in order. -/
structure CardinalityDeclared (min max : Option String) : Prop where
  lower : ∀ s, min = some s → ∃ m, m < UInt32.size ∧ Numeral (trim s).toList m
  upper : ∀ t, max = some t →
    trim t = "unbounded" ∨ ∃ n, n < UInt32.size ∧ Numeral (trim t).toList n
  inOrder : ∀ s t, min = some s → max = some t →
    ∀ m n, Numeral (trim s).toList m → Numeral (trim t).toList n → m ≤ n

namespace CardinalityDeclared
variable {min max : Option String} {lo : Option UInt32} {hi : Option MaxOccurs}

theorem exists_lower (h : CardinalityDeclared min max) :
    ∃ lo, Option.Rel (fun s (m : UInt32) => Numeral (trim s).toList m.toNat) min lo := by
  cases min with
  | none => exact ⟨none, .none⟩
  | some s =>
    obtain ⟨m, hsize, hm⟩ := h.lower s rfl
    refine ⟨some (UInt32.ofNat m), .some ?_⟩
    rwa [UInt32.toNat_ofNat_of_lt' hsize]

theorem exists_upper (h : CardinalityDeclared min max) :
    ∃ hi, Option.Rel (fun t (b : MaxOccurs) => b.WrittenAs t) max hi := by
  cases max with
  | none => exact ⟨none, .none⟩
  | some t =>
    rcases h.upper t rfl with hword | ⟨n, hsize, hn⟩
    · exact ⟨some .unbounded, .some hword⟩
    · refine ⟨some (.bounded (UInt32.ofNat n)), .some ?_⟩
      show Numeral (trim t).toList (UInt32.ofNat n).toNat
      rwa [UInt32.toNat_ofNat_of_lt' hsize]

theorem of_written (hlo : Option.Rel (fun s m => Numeral (trim s).toList m.toNat) min lo)
    (hhi : Option.Rel (fun t b => b.WrittenAs t) max hi) (horder : InOrder lo hi) :
    CardinalityDeclared min max := by
  refine ⟨fun s hs => ?_, fun t ht => ?_, fun s t hs ht m n hm hn => ?_⟩
  · subst hs
    cases hlo with
    | @some _ k hk => exact ⟨k.toNat, k.toNat_lt_size, hk⟩
  · subst ht
    cases hhi with
    | @some _ b hb =>
      cases b with
      | unbounded => exact .inl hb
      | bounded l => exact .inr ⟨l.toNat, l.toNat_lt_size, hb⟩
  · subst hs
    subst ht
    cases hlo with
    | @some _ k hk =>
      cases hhi with
      | @some _ b hb =>
        cases b with
        | unbounded => exact absurd hn (MaxOccurs.not_numeral_of_unbounded hb n)
        | bounded l =>
          have hle := UInt32.le_iff_toNat_le.mp (horder k l rfl rfl)
          rwa [hk.unique hm, Numeral.unique hb hn] at hle

theorem inOrder_of_written (h : CardinalityDeclared min max)
    (hlo : Option.Rel (fun s m => Numeral (trim s).toList m.toNat) min lo)
    (hhi : Option.Rel (fun t b => b.WrittenAs t) max hi) : InOrder lo hi := by
  rintro m n rfl rfl
  cases hlo with
  | @some s _ hm =>
    cases hhi with
    | @some t _ hn =>
      exact UInt32.le_iff_toNat_le.mpr (h.inOrder s t rfl rfl m.toNat n.toNat hm hn)

end CardinalityDeclared

theorem exists_compileBounds_iff {min max : Option String} :
    (∃ b, compileBounds min max = .ok b) ↔ CardinalityDeclared min max := by
  constructor
  · rintro ⟨⟨lo, hi⟩, h⟩
    obtain ⟨hlo, hhi, horder⟩ := compileBounds_eq_ok_iff.mp h
    exact .of_written hlo hhi horder
  · intro h
    obtain ⟨lo, hlo⟩ := h.exists_lower
    obtain ⟨hi, hhi⟩ := h.exists_upper
    exact ⟨(lo, hi), compileBounds_eq_ok_iff.mpr ⟨hlo, hhi, h.inOrder_of_written hlo hhi⟩⟩

theorem outcome_compileModelRule_cardinality (r : Registry) (source : Source) (head : RuleHeadDecl)
    (message min max : Option String) :
    (compileModelRule r source ⟨head, .hasCardinality message min max⟩).outcome =
      (compileBounds min max).map fun b =>
        ⟨compileHead source head, .hasCardinality message b.1 b.2⟩ := by
  have hrule : compileModelRule r source ⟨head, .hasCardinality message min max⟩ =
      Traced.ofExcept ((compileBounds min max).map fun b => .hasCardinality message b.1 b.2) >>=
        fun check => pure ⟨compileHead source head, check⟩ := rfl
  rw [hrule, Traced.outcome_bind]
  cases hbounds : compileBounds min max with
  | ok b => rfl
  | error e => rfl

/-- A rule on cardinality compiles if each bound that is given is, trimmed, a numeral below two to
the 32nd, or the word for no upper bound, and if of two numerals the lower one does not exceed the
upper one. Then the rule has the numbers that are written, to which zeros in front add nothing. It
is refused as a cardinality in all other cases, for one of the texts or for both numbers. The lower
bound is read as a number just where the text as an upper bound is read as that number. -/
theorem compileModelRule_cardinality (r : Registry) (source : Source) (head : RuleHeadDecl)
    (message min max : Option String) :
    ((∃ rule, (compileModelRule r source ⟨head, .hasCardinality message min max⟩).outcome =
      .ok rule) ↔ CardinalityDeclared min max) ∧
    (∀ rule, (compileModelRule r source ⟨head, .hasCardinality message min max⟩).outcome =
      .ok rule → ∃ lo hi, rule = ⟨compileHead source head, .hasCardinality message lo hi⟩ ∧
        Option.Rel (fun s m => Numeral (trim s).toList m.toNat) min lo ∧
        Option.Rel (fun t b => b.WrittenAs t) max hi) ∧
    (∀ e, (compileModelRule r source ⟨head, .hasCardinality message min max⟩).outcome =
      .error e → ∃ value cause, e = .invalidCardinality value cause ∧
        (min = some value ∨ max = some value ∨
          ∃ m n, n < m ∧ value = countText m ++ ".." ++ countText n)) ∧
    (∀ text n, compileMin text = .ok n ↔ MaxOccurs.parse text = .ok (.bounded n)) ∧
    ∀ k n, compileMin (String.ofList (List.replicate k '0' ++ (countText n).toList)) = .ok n := by
  rw [outcome_compileModelRule_cardinality]
  refine ⟨?_, fun rule h => ?_, fun e h => ?_, fun text n => ?_, compileMin_zeros⟩
  · rw [← exists_compileBounds_iff]
    constructor
    · rintro ⟨rule, h⟩
      obtain ⟨b, hb, -⟩ := Except.map_eq_ok_iff.mp h
      exact ⟨b, hb⟩
    · rintro ⟨b, hb⟩
      exact ⟨_, Except.map_eq_ok_iff.mpr ⟨b, hb, rfl⟩⟩
  · obtain ⟨⟨lo, hi⟩, hb, rfl⟩ := Except.map_eq_ok_iff.mp h
    obtain ⟨hlo, hhi, -⟩ := compileBounds_eq_ok_iff.mp hb
    exact ⟨lo, hi, rfl, hlo, hhi⟩
  · exact cause_of_compileBounds (Except.map_eq_error_iff.mp h)
  · rw [compileMin_eq_ok_iff, MaxOccurs.parse_eq_bounded_iff]

-- the largest count, behind more zeros than it has digits, and the count after it
example : compileBounds (some "0000000000004294967295") (some " unbounded ") =
    .ok (some 4294967295, some .unbounded) := rfl
example : compileBounds none (some "4294967296") = .error (.invalidCardinality "4294967296"
    (.badMax (.invalidOccurrence "4294967296" .tooLarge))) := rfl

end InfoModel

import InfoModel.Datatype.Parse
import InfoModel.Proofs.Outcome
import InfoModel.Proofs.Text.Numeral

/-!
# Decimals by their form

A decimal is written as a sign, digits and a point among them, each of which but one digit may be
left out. What is read joins the text around the point before it looks for the sign, so a sign
behind a point that comes first is taken too, and is then counted as a place. Main statement:
`Datatype.decimal_byForm_iff`.
-/

namespace InfoModel
open InfoModel.Text InfoModel.Unicode

variable {cs ds : List Char} {n : Nat} {k : Int} {d : Decimal}

def IsSign (sign : Option Char) : Prop := ∀ c, sign = some c → c = '+' ∨ c = '-'

def signed (sign : Option Char) (n : Nat) : Int := if sign = some '-' then -(n : Int) else n

theorem not_isDigit_of_isSign {c : Char} (h : IsSign (some c)) : c.isDigit = false := by
  rcases h c rfl with rfl | rfl
  · decide
  · decide

theorem readInt?_signed {c : Char} (h : IsSign (some c)) (ds : List Char) :
    readInt? (c :: ds) = (natOfDigits? ds).map (signed (some c)) := by
  rcases h c rfl with rfl | rfl
  · cases hds : natOfDigits? ds with
    | none => simp [readInt?, hds]
    | some n => simp [readInt?, hds, signed]
  · cases hds : natOfDigits? ds with
    | none => simp [readInt?, hds]
    | some n => simp [readInt?, hds, signed]

theorem readInt?_unsigned (h : ∀ c ds, IsSign (some c) → cs ≠ c :: ds) :
    readInt? cs = (natOfDigits? cs).map (signed none) := by
  have hplus : IsSign (some '+') := fun c hc => .inl (Option.some.inj hc).symm
  have hminus : IsSign (some '-') := fun c hc => .inr (Option.some.inj hc).symm
  unfold readInt?
  split
  · exact absurd rfl (h _ _ hminus)
  · exact absurd rfl (h _ _ hplus)
  · cases natOfDigits? cs with
    | none => rfl
    | some n => rfl

theorem readInt?_cases (cs : List Char) : ∃ sign ds, IsSign sign ∧ cs = sign.toList ++ ds ∧
    readInt? cs = (natOfDigits? ds).map (signed sign) := by
  by_cases h : ∃ c ds, IsSign (some c) ∧ cs = c :: ds
  · obtain ⟨c, ds, hc, rfl⟩ := h
    exact ⟨some c, ds, hc, rfl, readInt?_signed hc ds⟩
  · have hunsigned : ∀ c ds, IsSign (some c) → cs ≠ c :: ds := fun c ds hc hcs => h ⟨c, ds, hc, hcs⟩
    exact ⟨none, cs, fun c hc => (nomatch hc), rfl, readInt?_unsigned hunsigned⟩

theorem readInt?_eq_some_iff : readInt? cs = some k ↔ ∃ sign ds n,
    IsSign sign ∧ cs = sign.toList ++ ds ∧ Numeral ds n ∧ signed sign n = k := by
  constructor
  · intro h
    obtain ⟨sign, ds, hsign, hcs, hread⟩ := readInt?_cases cs
    rw [hread] at h
    obtain ⟨n, hn, hk⟩ := Option.map_eq_some_iff.mp h
    exact ⟨sign, ds, n, hsign, hcs, natOfDigits?_eq_some_iff.mp hn, hk⟩
  · rintro ⟨sign, ds, n, hsign, rfl, hn, rfl⟩
    have hread : readInt? (sign.toList ++ ds) = (natOfDigits? ds).map (signed sign) := by
      cases sign with
      | none =>
        have hunsigned : ∀ c rest, IsSign (some c) → ds ≠ c :: rest := by
          rintro c rest hc rfl
          exact hn.not_mem (not_isDigit_of_isSign hc) List.mem_cons_self
        exact readInt?_unsigned hunsigned
      | some c => exact readInt?_signed hsign ds
    rw [hread, natOfDigits?_eq_some_iff.mpr hn]
    rfl

/-- A decimal in parts: its sign, the digits before the point, and the point with those after it. -/
structure DecimalForm where
  sign : Option Char
  whole : List Char
  fraction : Option (List Char)

namespace DecimalForm

def places (f : DecimalForm) : List Char := f.fraction.getD []

def digits (f : DecimalForm) : List Char := f.whole ++ f.places

def written (f : DecimalForm) : List Char :=
  f.sign.toList ++ f.whole ++ (f.fraction.map ('.' :: ·)).getD []

structure Proper (f : DecimalForm) : Prop where
  sign : IsSign f.sign
  digits : ∀ c ∈ f.digits, c.isDigit = true
  nonempty : f.digits ≠ []

def meaning (f : DecimalForm) : Decimal :=
  ⟨signed f.sign (Nat.ofDigitChars 10 f.digits 0), f.places.length⟩

end DecimalForm

/-- The text is a point, a sign and digits, and the sign is counted as a place. -/
def StraySign (cs : List Char) (d : Decimal) : Prop :=
  ∃ c ds n, IsSign (some c) ∧ cs = '.' :: c :: ds ∧ Numeral ds n ∧
    d = ⟨signed (some c) n, ds.length + 1⟩

namespace Decimal

theorem withoutPoint_of_not_mem (h : '.' ∉ cs) : withoutPoint cs = (cs, 0) := by
  unfold withoutPoint
  rw [cutFirst_eq_none_iff.mpr h]

theorem withoutPoint_append {before : List Char} (h : '.' ∉ before) (after : List Char) :
    withoutPoint (before ++ '.' :: after) = (before ++ after, after.length) := by
  unfold withoutPoint
  rw [cutFirst_append h]

theorem point_cases (cs : List Char) :
    ('.' ∉ cs ∧ withoutPoint cs = (cs, 0)) ∨ ∃ before after,
      cs = before ++ '.' :: after ∧ '.' ∉ before ∧
        withoutPoint cs = (before ++ after, after.length) := by
  by_cases h : '.' ∈ cs
  · obtain ⟨before, after, rfl, hbefore⟩ := List.eq_append_cons_of_mem h
    exact .inr ⟨before, after, rfl, hbefore, withoutPoint_append hbefore after⟩
  · exact .inl ⟨h, withoutPoint_of_not_mem h⟩

theorem parse_eq_some_iff_of_point {digits : List Char} {scale : Nat}
    (h : withoutPoint cs = (digits, scale)) :
    parse cs = some d ↔ ∃ k, readInt? digits = some k ∧ d = ⟨k, scale⟩ := by
  unfold parse
  rw [h]
  dsimp only
  rw [Option.map_eq_some_iff]
  exact exists_congr fun k => and_congr_right fun _ => eq_comm

theorem not_mem_point {f : DecimalForm} (h : f.Proper) : '.' ∉ f.sign.toList ++ f.whole := by
  intro hmem
  rcases List.mem_append.mp hmem with hsign | hwhole
  · have hdot := h.sign '.' (Option.mem_toList.mp hsign)
    exact absurd hdot (by decide)
  · have hdot := h.digits '.' (List.mem_append_left _ hwhole)
    exact absurd hdot (by decide)

theorem parse_written {f : DecimalForm} (h : f.Proper) : parse f.written = some f.meaning := by
  have hpoint : withoutPoint f.written = (f.sign.toList ++ f.digits, f.places.length) := by
    have hfree := not_mem_point h
    unfold DecimalForm.written DecimalForm.digits DecimalForm.places
    rw [← List.append_assoc]
    cases f.fraction with
    | none => simpa using withoutPoint_of_not_mem hfree
    | some after => exact withoutPoint_append hfree after
  rw [parse_eq_some_iff_of_point hpoint]
  exact ⟨_, readInt?_eq_some_iff.mpr ⟨f.sign, f.digits, _, h.sign, rfl,
    ⟨h.nonempty, h.digits, rfl⟩, rfl⟩, rfl⟩

theorem parse_of_straySign (h : StraySign cs d) : parse cs = some d := by
  obtain ⟨c, ds, n, hsign, rfl, hn, rfl⟩ := h
  have hpoint : withoutPoint ('.' :: c :: ds) = (c :: ds, ds.length + 1) :=
    withoutPoint_append List.not_mem_nil (c :: ds)
  rw [parse_eq_some_iff_of_point hpoint]
  exact ⟨_, readInt?_eq_some_iff.mpr ⟨some c, ds, n, hsign, rfl, hn, rfl⟩, rfl⟩

theorem form_of_joined {sign : Option Char} {before after : List Char} (hsign : IsSign sign)
    (hjoined : before ++ after = sign.toList ++ ds) (hn : Numeral ds n) :
    (∃ f : DecimalForm, f.Proper ∧ f.written = before ++ '.' :: after ∧
      f.meaning = ⟨signed sign n, after.length⟩) ∨
    StraySign (before ++ '.' :: after) ⟨signed sign n, after.length⟩ := by
  have hsplit : before = [] ∧ sign.toList ≠ [] ∨ ∃ whole, before = sign.toList ++ whole := by
    cases sign with
    | none => exact .inr ⟨before, rfl⟩
    | some c =>
      cases before with
      | nil => exact .inl ⟨rfl, by simp⟩
      | cons b whole =>
        obtain ⟨rfl, -⟩ := List.cons.inj hjoined
        exact .inr ⟨whole, rfl⟩
  rcases hsplit with ⟨rfl, hne⟩ | ⟨whole, rfl⟩
  · obtain ⟨c, rfl⟩ : ∃ c, sign = some c := by
      cases sign with
      | none => exact absurd rfl hne
      | some c => exact ⟨c, rfl⟩
    have hafter : after = c :: ds := hjoined
    subst hafter
    exact .inr ⟨c, ds, n, hsign, rfl, hn, rfl⟩
  · rw [List.append_assoc] at hjoined
    obtain rfl : whole ++ after = ds := List.append_cancel_left hjoined
    refine .inl ⟨⟨sign, whole, some after⟩, ⟨hsign, hn.digits, hn.nonempty⟩, rfl, ?_⟩
    rw [← hn.value]
    rfl

/-- What is read has a proper form, unless it has its sign behind the point. -/
theorem parse_eq_some_iff : parse cs = some d ↔
    (∃ f : DecimalForm, f.Proper ∧ f.written = cs ∧ f.meaning = d) ∨ StraySign cs d := by
  constructor
  · intro h
    rcases point_cases cs with ⟨-, hpoint⟩ | ⟨before, after, rfl, -, hpoint⟩
    · obtain ⟨k, hk, rfl⟩ := (parse_eq_some_iff_of_point hpoint).mp h
      obtain ⟨sign, ds, n, hsign, rfl, hn, rfl⟩ := readInt?_eq_some_iff.mp hk
      have hproper : (⟨sign, ds, none⟩ : DecimalForm).Proper := by
        refine ⟨hsign, ?_, ?_⟩
        · simpa [DecimalForm.digits, DecimalForm.places] using hn.digits
        · simpa [DecimalForm.digits, DecimalForm.places] using hn.nonempty
      refine .inl ⟨_, hproper, ?_, ?_⟩
      · simp [DecimalForm.written]
      · simp [DecimalForm.meaning, DecimalForm.digits, DecimalForm.places, hn.value]
    · obtain ⟨k, hk, rfl⟩ := (parse_eq_some_iff_of_point hpoint).mp h
      obtain ⟨sign, ds, n, hsign, hjoined, hn, rfl⟩ := readInt?_eq_some_iff.mp hk
      exact form_of_joined hsign hjoined hn
  · rintro (⟨f, hf, rfl, rfl⟩ | hstray)
    · exact parse_written hf
    · exact parse_of_straySign hstray

theorem mem_parts {f : DecimalForm} {c : Char} (hc : c ∈ f.written) :
    c ∈ f.sign ∨ c ∈ f.digits ∨ c = '.' := by
  unfold DecimalForm.written at hc
  unfold DecimalForm.digits DecimalForm.places
  rw [List.append_assoc, List.mem_append, List.mem_append] at hc
  rw [List.mem_append]
  rcases hc with hsign | hwhole | hfraction
  · exact .inl (Option.mem_toList.mp hsign)
  · exact .inr (.inl (.inl hwhole))
  · cases hafter : f.fraction with
    | none => simp [hafter] at hfraction
    | some after =>
      rw [hafter] at hfraction
      rcases List.mem_cons.mp hfraction with rfl | hafter
      · exact .inr (.inr rfl)
      · exact .inr (.inl (.inr hafter))

theorem char_of_isSign {c : Char} (h : IsSign (some c)) :
    c.isDigit = true ∨ c = '+' ∨ c = '-' ∨ c = '.' := by
  rcases h c rfl with rfl | rfl
  · exact .inr (.inl rfl)
  · exact .inr (.inr (.inl rfl))

theorem char_of_parse (h : parse cs = some d) {c : Char} (hc : c ∈ cs) :
    c.isDigit = true ∨ c = '+' ∨ c = '-' ∨ c = '.' := by
  rcases parse_eq_some_iff.mp h with ⟨f, hf, rfl, -⟩ | ⟨s, ds, n, hsign, rfl, hn, -⟩
  · rcases mem_parts hc with hs | hd | rfl
    · exact char_of_isSign (hs ▸ hf.sign)
    · exact .inl (hf.digits c hd)
    · exact .inr (.inr (.inr rfl))
  · rw [List.mem_cons, List.mem_cons] at hc
    rcases hc with rfl | rfl | hd
    · exact .inr (.inr (.inr rfl))
    · exact char_of_isSign hsign
    · exact .inl (hn.digits c hd)

theorem not_straySign_written {f : DecimalForm} (h : f.Proper) : ¬ StraySign f.written d := by
  rintro ⟨c, ds, n, hsign, hwritten, -, -⟩
  have hdigit := not_isDigit_of_isSign hsign
  have hc : c ∉ f.digits := by
    intro hmem
    rw [h.digits c hmem] at hdigit
    cases hdigit
  unfold DecimalForm.digits DecimalForm.places at hc
  unfold DecimalForm.written at hwritten
  have hfree := not_mem_point h
  cases hfront : f.sign.toList ++ f.whole with
  | cons b front =>
    rw [hfront] at hwritten hfree
    exact hfree ((List.cons.inj hwritten).1 ▸ List.mem_cons_self)
  | nil =>
    rw [hfront] at hwritten
    cases hafter : f.fraction with
    | none => simp [hafter] at hwritten
    | some after => simp_all

end Decimal

namespace Datatype

/-- The decimal datatype takes what is read as a decimal once the blanks around it are left out: the
characters that it forbids besides are in no such text. -/
theorem decimal_parse_eq_ok_iff {text : String} {v : Value} : decimal.parse text = .ok v ↔
    ∃ d, Decimal.parse (trimChars text.toList) = some d ∧ v = .decimal d := by
  have hread : ∀ cs d, decimal.readDecimal cs = .ok d ↔ Decimal.parse cs = some d := by
    intro cs d
    unfold readDecimal
    split
    · next hforbidden =>
      obtain ⟨c, hmem, hc⟩ := List.any_eq_true.mp hforbidden
      constructor
      · intro h
        cases h
      · intro h
        rcases Decimal.char_of_parse h hmem with hdigit | rfl | rfl | rfl
        · have hc : (c = 'e' ∨ c = 'E') ∨ c = '_' := by simpa using hc
          rcases hc with (rfl | rfl) | rfl
          · exact absurd hdigit (by decide)
          · exact absurd hdigit (by decide)
          · exact absurd hdigit (by decide)
        · exact absurd hc (by decide)
        · exact absurd hc (by decide)
        · exact absurd hc (by decide)
    · unfold orRefuse
      cases Decimal.parse cs with
      | none => exact ⟨fun h => (nomatch h), fun h => (nomatch h)⟩
      | some d' => simp
  show (decimal.readDecimal (trimChars text.toList)).map Value.decimal = .ok v ↔ _
  rw [Except.map_eq_ok_iff]
  exact exists_congr fun d => and_congr (hread _ d) eq_comm

/-- The decimals of the text, blanks around it left out, are those of its proper forms. -/
def DecimalByForm (text : String) : Prop := ∀ v, decimal.parse text = .ok v ↔
  ∃ f : DecimalForm, f.Proper ∧ f.written = trimChars text.toList ∧ v = .decimal f.meaning

theorem decimal_parse_of_straySign {text : String} (h : StraySign (trimChars text.toList) d) :
    decimal.parse text = .ok (.decimal d) :=
  decimal_parse_eq_ok_iff.mpr ⟨d, Decimal.parse_of_straySign h, rfl⟩

theorem not_decimalByForm {text : String} (h : StraySign (trimChars text.toList) d) :
    ¬ DecimalByForm text := by
  intro hform
  obtain ⟨f, hf, hwritten, -⟩ := (hform _).mp (decimal_parse_of_straySign h)
  exact Decimal.not_straySign_written hf (hwritten ▸ h)

/-- A text is a decimal by its form, or by a point before a sign and digits; it is read as its forms
say except in the second case, where it has none. -/
theorem decimal_byForm_iff (text : String) :
    (∀ v, decimal.parse text = .ok v ↔
      (∃ f : DecimalForm, f.Proper ∧ f.written = trimChars text.toList ∧ v = .decimal f.meaning) ∨
      ∃ d, StraySign (trimChars text.toList) d ∧ v = .decimal d) ∧
    (DecimalByForm text ↔ ∀ d, ¬ StraySign (trimChars text.toList) d) := by
  have hall : ∀ v, decimal.parse text = .ok v ↔
      (∃ f : DecimalForm, f.Proper ∧ f.written = trimChars text.toList ∧ v = .decimal f.meaning) ∨
      ∃ d, StraySign (trimChars text.toList) d ∧ v = .decimal d := by
    intro v
    constructor
    · intro h
      obtain ⟨d, hd, rfl⟩ := decimal_parse_eq_ok_iff.mp h
      rcases Decimal.parse_eq_some_iff.mp hd with ⟨f, hf, hwritten, rfl⟩ | hstray
      · exact .inl ⟨f, hf, hwritten, rfl⟩
      · exact .inr ⟨d, hstray, rfl⟩
    · rintro (⟨f, hf, hwritten, rfl⟩ | ⟨d, hstray, rfl⟩)
      · exact decimal_parse_eq_ok_iff.mpr ⟨_, hwritten ▸ Decimal.parse_written hf, rfl⟩
      · exact decimal_parse_of_straySign hstray
  refine ⟨hall, ?_, ?_⟩
  · intro hform d hstray
    exact not_decimalByForm hstray hform
  · intro hnone v
    rw [hall v]
    constructor
    · rintro (hform | ⟨d, hstray, -⟩)
      · exact hform
      · exact absurd hstray (hnone d)
    · exact .inl

/-- A sign behind the point is read, and counted as a place, though the text has no form. -/
theorem decimal_stray_sign :
    decimal.parse ".-5" = .ok (.decimal ⟨-5, 2⟩) ∧ ¬ DecimalByForm ".-5" := by
  have hminus : IsSign (some '-') := fun c hc => .inr (Option.some.inj hc).symm
  have hfive : Numeral ['5'] 5 :=
    ⟨by decide, List.forall_mem_singleton.mpr (by decide), rfl⟩
  have hstray : StraySign (trimChars ".-5".toList) ⟨-5, 2⟩ :=
    ⟨'-', ['5'], 5, hminus, by decide, hfive, rfl⟩
  exact ⟨decimal_parse_of_straySign hstray, not_decimalByForm hstray⟩

end Datatype

end InfoModel

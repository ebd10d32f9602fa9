import InfoModel.Datatype.Parse
import InfoModel.Proofs.Outcome
import InfoModel.Proofs.Text.Numeral

/-!
# Offsets after dates

An offset after a date is the letter `Z`, or a sign and two pairs of digits with a colon between
them. What is taken for one has the sign and the colon in their places, and anything of two bytes
each around the colon. Main statement: `Datatype.offsetsWellFormed_iff`.
-/

namespace InfoModel
open InfoModel.Text InfoModel.Unicode

variable {cs rest date tail : List Char} {d : Date}

/-! ### Characters of dates -/

def IsDateChar (c : Char) : Prop := isBlank c = true ∨ c.isDigit = true ∨ c = '+' ∨ c = '-'

def ReadsDateChars (cs rest : List Char) : Prop :=
  ∃ front, cs = front ++ rest ∧ ∀ c ∈ front, IsDateChar c

theorem ReadsDateChars.trans {middle : List Char} (h : ReadsDateChars cs middle)
    (h' : ReadsDateChars middle rest) : ReadsDateChars cs rest := by
  obtain ⟨front, rfl, hfront⟩ := h
  obtain ⟨front', rfl, hfront'⟩ := h'
  refine ⟨front ++ front', (List.append_assoc ..).symm, ?_⟩
  intro c hc
  rcases List.mem_append.mp hc with hc | hc
  · exact hfront c hc
  · exact hfront' c hc

theorem readsDateChars_cons {c : Char} (hc : IsDateChar c) (cs : List Char) :
    ReadsDateChars (c :: cs) cs :=
  ⟨[c], rfl, fun _ hmem => List.mem_singleton.mp hmem ▸ hc⟩

theorem readsDateChars_blanks (cs : List Char) : ReadsDateChars cs (cs.dropWhile isBlank) :=
  ⟨cs.takeWhile isBlank, List.takeWhile_append_dropWhile.symm,
    fun c hc => .inl (List.all_eq_true.mp List.all_takeWhile c hc)⟩

theorem readsDateChars_of_readNumber {limit n : Nat} (h : readNumber limit cs = some (n, rest)) :
    ReadsDateChars cs rest := by
  unfold readNumber at h
  dsimp only at h
  split at h
  · cases h
  · cases h
    have hprefix : (cs.take limit).takeWhile isAsciiDigit <+: cs :=
      (List.takeWhile_prefix _).trans (List.take_prefix limit cs)
    refine ⟨_, (List.prefix_iff_eq_append.mp hprefix).symm, ?_⟩
    intro c hc
    have hdigit := List.all_eq_true.mp List.all_takeWhile c hc
    rw [isAsciiDigit_eq_isDigit] at hdigit
    exact .inr (.inl hdigit)

theorem readsDateChars_of_readPadded {n : Nat} (h : readPadded cs = some (n, rest)) :
    ReadsDateChars cs rest :=
  (readsDateChars_blanks cs).trans (readsDateChars_of_readNumber h)

theorem readsDateChars_of_signed {sign : Char} {unsigned : List Char} {limit n : Nat}
    (hsign : IsDateChar sign) (hcs : cs.dropWhile isBlank = sign :: unsigned)
    (h : readNumber limit unsigned = some (n, rest)) : ReadsDateChars cs rest := by
  have hblanks := readsDateChars_blanks cs
  rw [hcs] at hblanks
  have hupToSign := hblanks.trans (readsDateChars_cons hsign unsigned)
  exact hupToSign.trans (readsDateChars_of_readNumber h)

theorem readsDateChars_of_readYear {year : Int} (h : readYear cs = some (year, rest)) :
    ReadsDateChars cs rest := by
  unfold readYear at h
  split at h
  · next unsigned hcs =>
    obtain ⟨⟨n, left⟩, hnumber, heq⟩ := Option.map_eq_some_iff.mp h
    cases heq
    exact readsDateChars_of_signed (.inr (.inr (.inr rfl))) hcs hnumber
  · next unsigned hcs =>
    obtain ⟨⟨n, left⟩, hnumber, heq⟩ := Option.map_eq_some_iff.mp h
    cases heq
    exact readsDateChars_of_signed (.inr (.inr (.inl rfl))) hcs hnumber
  · obtain ⟨⟨n, left⟩, hnumber, heq⟩ := Option.map_eq_some_iff.mp h
    cases heq
    exact (readsDateChars_blanks cs).trans (readsDateChars_of_readNumber hnumber)

theorem readsDateChars_of_hyphen (h : afterPrefix? ['-'] cs = some rest) :
    ReadsDateChars cs rest := by
  rw [eq_of_afterPrefix? h]
  exact readsDateChars_cons (.inr (.inr (.inr rfl))) rest

namespace Date

theorem readsDateChars_of_read (h : read cs = some (d, rest)) : ReadsDateChars cs rest := by
  unfold read at h
  obtain ⟨⟨year, cs₁⟩, hyear, h⟩ := Option.bind_eq_some_iff.mp h
  obtain ⟨cs₂, hhyphen, h⟩ := Option.bind_eq_some_iff.mp h
  obtain ⟨⟨month, cs₃⟩, hmonth, h⟩ := Option.bind_eq_some_iff.mp h
  obtain ⟨cs₄, hhyphen', h⟩ := Option.bind_eq_some_iff.mp h
  obtain ⟨⟨day, cs₅⟩, hday, h⟩ := Option.bind_eq_some_iff.mp h
  obtain ⟨date, -, h⟩ := Option.bind_eq_some_iff.mp h
  cases h
  have hupToMonth := (readsDateChars_of_readYear hyear).trans (readsDateChars_of_hyphen hhyphen)
  have hupToDay := (hupToMonth.trans (readsDateChars_of_readPadded hmonth)).trans
    (readsDateChars_of_hyphen hhyphen')
  exact hupToDay.trans (readsDateChars_of_readPadded hday)

theorem char_of_parse (h : parse cs = some d) : ∀ c ∈ cs, IsDateChar c := by
  unfold parse at h
  split at h
  · next date hread =>
    obtain ⟨front, rfl, hfront⟩ := readsDateChars_of_read hread
    rwa [List.append_nil]
  · cases h

theorem ne_nil_of_parse (h : parse cs = some d) : cs ≠ [] := by
  rintro rfl
  have hnil : parse [] = none := rfl
  rw [hnil] at h
  cases h

end Date

/-! ### Offsets -/

/-- The letter `Z`, or a sign, two digits, a colon and two digits. -/
def IsOffset (tail : List Char) : Prop := tail = ['Z'] ∨
  ∃ sign h h' m m', (sign = '+' ∨ sign = '-') ∧ tail = [sign, h, h', ':', m, m'] ∧
    ∀ c ∈ [h, h', m, m'], c.isDigit = true

/-- A sign, two bytes, a colon and two bytes. -/
def IsShiftForm (tail : List Char) : Prop :=
  ∃ sign hours minutes, (sign = '+' ∨ sign = '-') ∧ tail = sign :: (hours ++ ':' :: minutes) ∧
    byteCount hours = 2 ∧ byteCount minutes = 2

def PassesAsOffset (tail : List Char) : Prop :=
  tail = ['Z'] ∨ IsShiftForm tail ∧ tail.getLast? ≠ some 'Z'

theorem utf8Size_of_sign {sign : Char} (h : sign = '+' ∨ sign = '-') : sign.utf8Size = 1 := by
  rcases h with rfl | rfl
  · decide
  · decide

theorem utf8Size_of_isDigit {c : Char} (h : c.isDigit = true) : c.utf8Size = 1 := by
  have hrange : c.val.toNat ≤ 57 := (Char.isDigit_iff_toNat.mp h).2
  rw [Char.utf8Size_eq_one_iff]
  exact UInt32.le_iff_toNat_le.mpr (Nat.le_trans hrange (by decide))

theorem IsShiftForm.byteCount_eq (h : IsShiftForm tail) : byteCount tail = 6 := by
  obtain ⟨sign, hours, minutes, hsign, rfl, hhours, hminutes⟩ := h
  have hwidth := utf8Size_of_sign hsign
  have hcolon : (':' : Char).utf8Size = 1 := by decide
  simp only [byteCount, byteCount_append]
  omega

theorem IsOffset.passes (h : IsOffset tail) : PassesAsOffset tail := by
  rcases h with rfl | ⟨sign, h, h', m, m', hsign, rfl, hdigits⟩
  · exact .inl rfl
  · simp only [List.forall_mem_cons] at hdigits
    obtain ⟨hh, hh', hm, hm', -⟩ := hdigits
    have hhours : byteCount [h, h'] = 2 := by
      simp [byteCount, utf8Size_of_isDigit hh, utf8Size_of_isDigit hh']
    have hminutes : byteCount [m, m'] = 2 := by
      simp [byteCount, utf8Size_of_isDigit hm, utf8Size_of_isDigit hm']
    refine .inr ⟨⟨sign, [h, h'], [m, m'], hsign, rfl, hhours, hminutes⟩, ?_⟩
    intro hlast
    cases hlast
    exact absurd hm' (by decide)

/-! ### Splitting -/

theorem splitOffset_utc (date : List Char) :
    splitOffset (date ++ ['Z']) = (date, some ['Z']) := by
  simp [splitOffset]

theorem splitOffset_of_last (h : cs.getLast? ≠ some 'Z') : splitOffset cs =
    if 6 < byteCount cs then
      match splitAtByte? (byteCount cs - 6) cs with
      | some (date, tail) => if isOffsetForm tail then (date, some tail) else (cs, none)
      | none => (cs, none)
    else (cs, none) := by
  unfold splitOffset
  split
  · next date hcs =>
    rw [← List.head?_reverse, hcs] at h
    exact absurd rfl h
  · rfl

theorem isOffsetForm_iff (hsize : byteCount tail = 6) :
    isOffsetForm tail = true ↔ IsShiftForm tail := by
  constructor
  · intro h
    unfold isOffsetForm at h
    rw [Bool.and_eq_true, Bool.or_eq_true, beq_iff_eq, beq_iff_eq] at h
    obtain ⟨hsign, hfourth⟩ := h
    split at hfourth
    · next front rest hsplit =>
      obtain ⟨rfl, hfront⟩ := splitAtByte?_eq_some_iff.mp hsplit
      obtain ⟨minutes, rfl⟩ := List.head?_eq_some_iff.mp (beq_iff_eq.mp hfourth)
      cases front with
      | nil => cases hfront
      | cons sign hours =>
        have hsign : sign = '+' ∨ sign = '-' := by simpa using hsign
        have hwidth := utf8Size_of_sign hsign
        have hcolon : (':' : Char).utf8Size = 1 := by decide
        simp only [byteCount, byteCount_append] at hsize hfront
        exact ⟨sign, hours, minutes, hsign, rfl, by omega, by omega⟩
    · cases hfourth
  · rintro ⟨sign, hours, minutes, hsign, rfl, hhours, -⟩
    have hsplit : splitAtByte? 3 (sign :: (hours ++ ':' :: minutes)) =
        some (sign :: hours, ':' :: minutes) := by
      refine splitAtByte?_eq_some_iff.mpr ⟨rfl, ?_⟩
      unfold byteCount
      rw [utf8Size_of_sign hsign, hhours]
    unfold isOffsetForm
    rw [hsplit]
    simpa using hsign

theorem getLast?_append_tail (date : List Char) {n : Nat} (h : byteCount tail = n + 1) :
    (date ++ tail).getLast? = tail.getLast? := by
  rw [List.getLast?_append, List.getLast?_eq_some_getLast (ne_nil_of_byteCount h)]
  rfl

theorem splitOffset_cases (cs : List Char) : splitOffset cs = (cs, none) ∨
    ∃ date tail, cs = date ++ tail ∧ PassesAsOffset tail ∧ splitOffset cs = (date, some tail) := by
  by_cases hlast : cs.getLast? = some 'Z'
  · obtain ⟨date, rfl⟩ := List.getLast?_eq_some_iff.mp hlast
    exact .inr ⟨date, ['Z'], rfl, .inl rfl, splitOffset_utc date⟩
  · rw [splitOffset_of_last hlast]
    by_cases hsize : 6 < byteCount cs
    · rw [if_pos hsize]
      cases hsplit : splitAtByte? (byteCount cs - 6) cs with
      | none => exact .inl rfl
      | some parts =>
        obtain ⟨date, tail⟩ := parts
        obtain ⟨rfl, hdate⟩ := splitAtByte?_eq_some_iff.mp hsplit
        have htail : byteCount tail = 6 := by
          rw [byteCount_append] at hsize hdate
          omega
        rw [getLast?_append_tail date htail] at hlast
        dsimp only
        by_cases hform : isOffsetForm tail = true
        · rw [if_pos hform]
          exact .inr ⟨date, tail, rfl, .inr ⟨(isOffsetForm_iff htail).mp hform, hlast⟩, rfl⟩
        · rw [if_neg hform]
          exact .inl rfl
    · rw [if_neg hsize]
      exact .inl rfl

/-- A text that ends in what passes as an offset is split before it, unless that is all of it. -/
theorem splitOffset_append (hdate : date ≠ []) (h : PassesAsOffset tail) :
    splitOffset (date ++ tail) = (date, some tail) := by
  rcases h with rfl | ⟨hform, hlast⟩
  · exact splitOffset_utc date
  · have htail := hform.byteCount_eq
    have hpos : 0 < byteCount date := by
      cases date with
      | nil => exact absurd rfl hdate
      | cons c date =>
        have hwidth := c.utf8Size_pos
        unfold byteCount
        omega
    have hsize : byteCount (date ++ tail) = byteCount date + 6 := by
      rw [byteCount_append, htail]
    have hsplit : splitAtByte? (byteCount date) (date ++ tail) = some (date, tail) :=
      splitAtByte?_eq_some_iff.mpr ⟨rfl, rfl⟩
    rw [splitOffset_of_last (getLast?_append_tail date htail ▸ hlast), if_pos (by omega), hsize,
      Nat.add_sub_cancel, hsplit]
    dsimp only
    rw [if_pos ((isOffsetForm_iff htail).mpr hform)]

theorem not_dateChar_of_passes (h : PassesAsOffset tail) : ∃ c ∈ tail, ¬ IsDateChar c := by
  rcases h with rfl | ⟨⟨sign, hours, minutes, -, rfl, -, -⟩, -⟩
  · exact ⟨'Z', List.mem_singleton_self _, by unfold IsDateChar; decide⟩
  · exact ⟨':', by simp, by unfold IsDateChar; decide⟩

theorem splitOffset_of_parse (h : Date.parse cs = some d) : splitOffset cs = (cs, none) := by
  rcases splitOffset_cases cs with hsplit | ⟨date, tail, rfl, hpasses, -⟩
  · exact hsplit
  · obtain ⟨c, hc, hnot⟩ := not_dateChar_of_passes hpasses
    exact absurd (Date.char_of_parse h c (List.mem_append_right date hc)) hnot

/-! ### The datatypes -/

/-- What is taken for an offset and is none. -/
def IsFalseOffset (tail : List Char) : Prop := PassesAsOffset tail ∧ ¬ IsOffset tail

/-- The text writes the date and goes on with a tail of the given kind. -/
def DateThen (Tail : List Char → Prop) (cs : List Char) (d : Date) : Prop :=
  ∃ date tail, cs = date ++ tail ∧ Date.parse date = some d ∧ Tail tail

theorem DateThen.imp {Tail Tail' : List Char → Prop} (himp : ∀ tail, Tail tail → Tail' tail)
    (h : DateThen Tail cs d) : DateThen Tail' cs d := by
  obtain ⟨date, tail, hcs, hparse, htail⟩ := h
  exact ⟨date, tail, hcs, hparse, himp tail htail⟩

theorem DateThen.isOffset (h : DateThen PassesAsOffset cs d)
    (hnone : ¬ DateThen IsFalseOffset cs d) : DateThen IsOffset cs d := by
  obtain ⟨date, tail, hcs, hparse, hpasses⟩ := h
  by_cases hoffset : IsOffset tail
  · exact ⟨date, tail, hcs, hparse, hoffset⟩
  · exact absurd ⟨date, tail, hcs, hparse, hpasses, hoffset⟩ hnone

theorem DateThen.not_isOffset {d' : Date} (h : DateThen IsFalseOffset cs d) :
    ¬ DateThen IsOffset cs d' := by
  obtain ⟨date, tail, rfl, hparse, hpasses, hnot⟩ := h
  rintro ⟨date', tail', hcs, hparse', hoffset⟩
  have hsplit := splitOffset_append (Date.ne_nil_of_parse hparse) hpasses
  have hsplit' := splitOffset_append (Date.ne_nil_of_parse hparse') hoffset.passes
  rw [hcs, hsplit'] at hsplit
  cases hsplit
  exact hnot hoffset

theorem splitOffset_of_dateThen (h : DateThen PassesAsOffset cs d) : ∃ date tail,
    splitOffset cs = (date, some tail) ∧ Date.parse date = some d := by
  obtain ⟨date, tail, rfl, hparse, hpasses⟩ := h
  exact ⟨date, tail, splitOffset_append (Date.ne_nil_of_parse hparse) hpasses, hparse⟩

theorem parse_splitOffset_iff : Date.parse (splitOffset cs).1 = some d ↔
    Date.parse cs = some d ∨ DateThen PassesAsOffset cs d := by
  constructor
  · intro h
    rcases splitOffset_cases cs with hsplit | ⟨date, tail, hcs, hpasses, hsplit⟩
    · rw [hsplit] at h
      exact .inl h
    · rw [hsplit] at h
      exact .inr ⟨date, tail, hcs, h, hpasses⟩
  · rintro (h | h)
    · rwa [splitOffset_of_parse h]
    · obtain ⟨date, tail, hsplit, hparse⟩ := splitOffset_of_dateThen h
      rwa [hsplit]

namespace Datatype

variable {text : String} {v : Value}

theorem readDate_eq_ok_iff {t : Datatype} : t.readDate cs = .ok d ↔ Date.parse cs = some d := by
  unfold readDate orRefuse
  cases Date.parse cs with
  | none => exact ⟨fun h => (nomatch h), fun h => (nomatch h)⟩
  | some d' => simp

theorem date_parse_eq_ok_iff : Datatype.date.parse text = .ok v ↔ ∃ d, v = .date d ∧
    (Date.parse (trimChars text.toList) = some d ∨
      DateThen PassesAsOffset (trimChars text.toList) d) := by
  show (Datatype.date.readDate (splitOffset (trimChars text.toList)).1).map Value.date = .ok v ↔ _
  rw [Except.map_eq_ok_iff]
  refine exists_congr fun d => ?_
  rw [readDate_eq_ok_iff, parse_splitOffset_iff, and_comm, eq_comm]

theorem readDateWithOffset_eq_ok_iff {t : Datatype} {lexical written : String} :
    t.readDateWithOffset lexical cs = .ok written ↔
      written = String.ofList cs ∧ ∃ d, DateThen PassesAsOffset cs d := by
  unfold readDateWithOffset
  rcases splitOffset_cases cs with hsplit | ⟨date, tail, hcs, hpasses, hsplit⟩
  · rw [hsplit]
    constructor
    · intro h
      cases h
    · rintro ⟨-, d, hthen⟩
      obtain ⟨date, tail, hsome, -⟩ := splitOffset_of_dateThen hthen
      rw [hsplit] at hsome
      cases hsome
  · rw [hsplit]
    dsimp only
    constructor
    · intro h
      split at h
      · next d hread =>
        cases h
        exact ⟨rfl, d, date, tail, hcs, readDate_eq_ok_iff.mp hread, hpasses⟩
      · cases h
    · rintro ⟨rfl, d, hthen⟩
      obtain ⟨date', tail', hsplit', hparse⟩ := splitOffset_of_dateThen hthen
      rw [hsplit] at hsplit'
      cases hsplit'
      rw [readDate_eq_ok_iff.mpr hparse]

theorem dateWithTimezone_parse_eq_ok_iff : dateWithTimezone.parse text = .ok v ↔
    v = .dateWithOffset (trim text) ∧
      ∃ d, DateThen PassesAsOffset (trimChars text.toList) d := by
  show (dateWithTimezone.readDateWithOffset text (trimChars text.toList)).map
    Value.dateWithOffset = .ok v ↔ _
  rw [Except.map_eq_ok_iff]
  constructor
  · rintro ⟨written, hread, rfl⟩
    obtain ⟨rfl, hthen⟩ := readDateWithOffset_eq_ok_iff.mp hread
    exact ⟨rfl, hthen⟩
  · rintro ⟨rfl, hthen⟩
    exact ⟨_, readDateWithOffset_eq_ok_iff.mpr ⟨rfl, hthen⟩, rfl⟩

/-- Of the text, blanks around it left out, both datatypes of dates accept what ends in an offset
after a date, the one without a timezone also a date alone, and nothing else. -/
def OffsetsWellFormed (text : String) : Prop :=
  ((∃ v, dateWithTimezone.parse text = .ok v) ↔
    ∃ d, DateThen IsOffset (trimChars text.toList) d) ∧
  ((∃ v, Datatype.date.parse text = .ok v) ↔
    ∃ d, Date.parse (trimChars text.toList) = some d ∨ DateThen IsOffset (trimChars text.toList) d)

theorem not_offsetsWellFormed (h : DateThen IsFalseOffset (trimChars text.toList) d) :
    ¬ OffsetsWellFormed text := by
  intro hwell
  have hpasses := h.imp fun _ hfalse => hfalse.1
  obtain ⟨d', hoffset⟩ := hwell.1.mp ⟨_, dateWithTimezone_parse_eq_ok_iff.mpr ⟨rfl, d, hpasses⟩⟩
  exact h.not_isOffset hoffset

/-- Both datatypes of dates accept what passes as an offset after a date. This is as it should be
exactly where no text that is none passes. -/
theorem offsetsWellFormed_iff (text : String) :
    (∀ v, dateWithTimezone.parse text = .ok v ↔ v = .dateWithOffset (trim text) ∧
      ∃ d, DateThen PassesAsOffset (trimChars text.toList) d) ∧
    (∀ v, Datatype.date.parse text = .ok v ↔ ∃ d, v = .date d ∧
      (Date.parse (trimChars text.toList) = some d ∨
        DateThen PassesAsOffset (trimChars text.toList) d)) ∧
    (OffsetsWellFormed text ↔ ∀ d, ¬ DateThen IsFalseOffset (trimChars text.toList) d) := by
  refine ⟨fun v => dateWithTimezone_parse_eq_ok_iff, fun v => date_parse_eq_ok_iff, ?_, ?_⟩
  · intro hwell d hfalse
    exact not_offsetsWellFormed hfalse hwell
  · intro hnone
    refine ⟨⟨?_, ?_⟩, ⟨?_, ?_⟩⟩
    · rintro ⟨v, hv⟩
      obtain ⟨-, d, hthen⟩ := dateWithTimezone_parse_eq_ok_iff.mp hv
      exact ⟨d, hthen.isOffset (hnone d)⟩
    · rintro ⟨d, hthen⟩
      have hpasses := hthen.imp fun _ => IsOffset.passes
      exact ⟨_, dateWithTimezone_parse_eq_ok_iff.mpr ⟨rfl, d, hpasses⟩⟩
    · rintro ⟨v, hv⟩
      obtain ⟨d, -, halone | hthen⟩ := date_parse_eq_ok_iff.mp hv
      · exact ⟨d, .inl halone⟩
      · exact ⟨d, .inr (hthen.isOffset (hnone d))⟩
    · rintro ⟨d, halone | hthen⟩
      · exact ⟨_, date_parse_eq_ok_iff.mpr ⟨d, rfl, .inl halone⟩⟩
      · have hpasses := hthen.imp fun _ => IsOffset.passes
        exact ⟨_, date_parse_eq_ok_iff.mpr ⟨d, rfl, .inr hpasses⟩⟩

/-- Letters around the colon pass. -/
theorem date_letter_offset :
    dateWithTimezone.parse "2024-01-01+ab:cd" = .ok (.dateWithOffset "2024-01-01+ab:cd") ∧
      ¬ OffsetsWellFormed "2024-01-01+ab:cd" := by
  have hpasses : PassesAsOffset "+ab:cd".toList :=
    .inr ⟨⟨'+', ['a', 'b'], ['c', 'd'], .inl rfl, by decide, by decide, by decide⟩, by decide⟩
  have hnot : ¬ IsOffset "+ab:cd".toList := by
    rintro (hutc | ⟨sign, h, h', m, m', -, hwritten, hdigits⟩)
    · exact absurd hutc (by decide)
    · cases hwritten
      exact absurd (hdigits 'a' List.mem_cons_self) (by decide)
  have hfalse : DateThen IsFalseOffset (trimChars "2024-01-01+ab:cd".toList) ⟨2024, 1, 1⟩ :=
    ⟨"2024-01-01".toList, "+ab:cd".toList, by decide, by decide, hpasses, hnot⟩
  have haccepted := hfalse.imp fun _ h => h.1
  exact ⟨dateWithTimezone_parse_eq_ok_iff.mpr ⟨rfl, _, haccepted⟩, not_offsetsWellFormed hfalse⟩

end Datatype

end InfoModel

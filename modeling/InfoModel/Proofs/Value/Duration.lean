import InfoModel.Proofs.Value.Decimal

/-!
# Durations by their form

A duration is written as a sign, the letter `P`, and components in the order of their units, each of
which may be left out but not all. The components of the time of day follow the letter `T`. What is
read goes through the units round by round and takes exactly these texts. Main statement:
`Datatype.duration_byForm`.
-/

namespace InfoModel.Duration
open InfoModel.Text InfoModel.Unicode

variable {fraction : Bool} {unit : Char} {units left number rest cs : List Char}

/-! ### Numbers -/

structure Run (cs : List Char) : Prop where
  nonempty : cs ≠ []
  digits : ∀ c ∈ cs, c.isDigit = true

/-- Digits, one at least, and at most one point among them. -/
structure Fractional (cs : List Char) : Prop where
  chars : ∀ c ∈ cs, c.isDigit = true ∨ c = '.'
  digit : ∃ c ∈ cs, c.isDigit = true
  point : cs.count '.' ≤ 1

def IsNumber : Bool → List Char → Prop
  | true => Fractional
  | false => Run

theorem isNumberPart_iff {c : Char} : isNumberPart c = true ↔ c.isDigit = true ∨ c = '.' := by
  unfold isNumberPart
  rw [Bool.or_eq_true, isAsciiDigit_eq_isDigit, decide_eq_true_eq]

theorem Run.fractional (h : Run cs) : Fractional cs where
  chars := fun c hc => .inl (h.digits c hc)
  digit := by
    obtain ⟨c, rest, rfl⟩ := List.exists_cons_of_ne_nil h.nonempty
    exact ⟨c, List.mem_cons_self, h.digits c List.mem_cons_self⟩
  point := by
    have hfree : '.' ∉ cs := fun hmem => absurd (h.digits '.' hmem) (by decide)
    rw [List.count_eq_zero.mpr hfree]
    exact Nat.zero_le 1

theorem run_iff : Run cs ↔ Fractional cs ∧ '.' ∉ cs := by
  constructor
  · exact fun h => ⟨h.fractional, fun hmem => absurd (h.digits '.' hmem) (by decide)⟩
  · rintro ⟨hfractional, hfree⟩
    obtain ⟨c, hc, -⟩ := hfractional.digit
    refine ⟨List.ne_nil_of_mem hc, fun c hc => ?_⟩
    rcases hfractional.chars c hc with hdigit | rfl
    · exact hdigit
    · exact absurd hc hfree

theorem isSome_parse_of_fractional (h : Fractional cs) : (Decimal.parse cs).isSome = true := by
  obtain ⟨f, hf, hwritten⟩ : ∃ f : DecimalForm, f.Proper ∧ f.written = cs := by
    have hunsigned : IsSign none := fun c hc => (nomatch hc)
    obtain ⟨c, hc, hdigit⟩ := h.digit
    by_cases hpoint : '.' ∈ cs
    · obtain ⟨before, after, rfl, hbefore⟩ := List.eq_append_cons_of_mem hpoint
      have hafter : '.' ∉ after := by
        have hcount := h.point
        rw [List.count_append, List.count_cons_self] at hcount
        exact List.count_eq_zero.mp (by omega)
      have hdigits : ∀ d ∈ before ++ after, d.isDigit = true := by
        intro d hd
        rcases List.mem_append.mp hd with hd | hd
        · refine (h.chars d (List.mem_append_left _ hd)).resolve_right ?_
          rintro rfl
          exact hbefore hd
        · refine (h.chars d (List.mem_append_right _ (List.mem_cons_of_mem _ hd))).resolve_right ?_
          rintro rfl
          exact hafter hd
      refine ⟨⟨none, before, some after⟩, ⟨hunsigned, hdigits, ?_⟩, rfl⟩
      rintro hnil
      obtain ⟨rfl, rfl⟩ := List.append_eq_nil_iff.mp hnil
      rw [List.mem_singleton.mp hc] at hdigit
      exact absurd hdigit (by decide)
    · have hrun := run_iff.mpr ⟨h, hpoint⟩
      refine ⟨⟨none, cs, none⟩, ⟨hunsigned, ?_, ?_⟩, List.append_nil cs⟩
      · simpa [DecimalForm.digits, DecimalForm.places] using hrun.digits
      · simpa [DecimalForm.digits, DecimalForm.places] using hrun.nonempty
  rw [← hwritten, Decimal.parse_written hf]
  rfl

theorem fractional_of_isSome_parse (hchars : ∀ c ∈ cs, c.isDigit = true ∨ c = '.')
    (h : (Decimal.parse cs).isSome = true) : Fractional cs := by
  have hunsigned : ∀ c, IsSign (some c) → c ∉ cs := by
    intro c hsign hc
    rcases hsign c rfl with rfl | rfl
    · exact absurd (hchars _ hc) (by decide)
    · exact absurd (hchars _ hc) (by decide)
  obtain ⟨d, hd⟩ := Option.isSome_iff_exists.mp h
  rcases Decimal.parse_eq_some_iff.mp hd with ⟨f, hf, rfl, -⟩ | ⟨c, ds, n, hsign, rfl, -, -⟩
  · obtain ⟨sign, whole, fraction⟩ := f
    have hnone : sign = none := by
      cases sign with
      | none => rfl
      | some c => exact absurd List.mem_cons_self (hunsigned c hf.sign)
    subst hnone
    obtain ⟨-, hdigits, hnonempty⟩ := hf
    have hfree : ∀ ds : List Char, (∀ c ∈ ds, c.isDigit = true) → ds.count '.' = 0 :=
      fun ds hds => List.count_eq_zero.mpr fun hmem => absurd (hds '.' hmem) (by decide)
    refine ⟨hchars, ?_, ?_⟩
    · obtain ⟨c, hc⟩ := List.exists_mem_of_ne_nil _ hnonempty
      refine ⟨c, ?_, hdigits c hc⟩
      cases fraction with
      | none => simpa [DecimalForm.written, DecimalForm.digits, DecimalForm.places] using hc
      | some after =>
        simp only [DecimalForm.digits, DecimalForm.places, Option.getD_some, List.mem_append] at hc
        simp only [DecimalForm.written, Option.toList_none, List.nil_append, Option.map_some,
          Option.getD_some, List.mem_append, List.mem_cons]
        exact hc.imp_right .inr
    · cases fraction with
      | none =>
        have hzero := hfree whole fun c hc => hdigits c (List.mem_append_left _ hc)
        simp [DecimalForm.written, hzero]
      | some after =>
        have hwhole := hfree whole fun c hc => hdigits c (List.mem_append_left _ hc)
        have hafter := hfree after fun c hc => hdigits c (List.mem_append_right _ hc)
        simp [DecimalForm.written, hwhole, hafter]
  · exact absurd (List.mem_cons_of_mem _ List.mem_cons_self) (hunsigned c hsign)

theorem isNumber_iff (hparts : ∀ c ∈ cs, isNumberPart c = true) :
    isNumber fraction cs = true ↔ IsNumber fraction cs := by
  have hchars : ∀ c ∈ cs, c.isDigit = true ∨ c = '.' :=
    fun c hc => isNumberPart_iff.mp (hparts c hc)
  have hread : (cs.isEmpty = false ∧ (Decimal.parse cs).isSome = true) ↔ Fractional cs := by
    constructor
    · exact fun h => fractional_of_isSome_parse hchars h.2
    · intro h
      obtain ⟨c, hc, -⟩ := h.digit
      exact ⟨List.isEmpty_eq_false_iff.mpr (List.ne_nil_of_mem hc), isSome_parse_of_fractional h⟩
  unfold isNumber
  cases fraction with
  | true =>
    show _ ↔ Fractional cs
    simpa using hread
  | false =>
    show _ ↔ Run cs
    rw [run_iff, ← hread]
    simp [and_comm, and_left_comm, and_assoc]

/-! ### Rounds -/

/-- One round: a number and its unit are read off the text, and the units up to it are done. -/
inductive Round (fraction : Bool) : List Char × List Char → List Char × List Char → Prop
  | intro {unit : Char} {units left number rest : List Char}
      (parts : ∀ c ∈ number, isNumberPart c = true) (ends : isNumberPart unit = false)
      (unit_left : unitsAfter unit units = some left)
      (number_ok : isNumber (fraction && left.isEmpty) number = true) :
      Round fraction (units, number ++ unit :: rest) (left, rest)

inductive Rounds (fraction : Bool) : Nat → List Char × List Char → Prop
  | done {units : List Char} : Rounds fraction 0 (units, [])
  | more {n : Nat} {before after : List Char × List Char} (first : Round fraction before after)
      (others : Rounds fraction n after) : Rounds fraction (n + 1) before

theorem Round.length_lt {before after : List Char × List Char} (h : Round fraction before after) :
    after.1.length < before.1.length := by
  obtain ⟨-, -, hleft, -⟩ := h
  exact length_unitsAfter_lt hleft

/-- Every sequence of rounds comes to an end: each leaves fewer units than there were. -/
theorem wellFounded_round : WellFounded fun after before => Round fraction before after :=
  Subrelation.wf Round.length_lt (measure fun s : List Char × List Char => s.1.length).wf

theorem countComponents_nil : countComponents fraction units [] = some 0 := by
  rw [countComponents]
  rfl

theorem countComponents_of_round {before after : List Char × List Char}
    (h : Round fraction before after) : countComponents fraction before.1 before.2 =
      (countComponents fraction after.1 after.2).map (· + 1) := by
  obtain @⟨unit, units, left, number, rest, hparts, hends, hleft, hnumber⟩ := h
  have hends : ¬ isNumberPart unit = true := by rw [hends]; decide
  have htake : (number ++ unit :: rest).takeWhile isNumberPart = number := by
    rw [List.takeWhile_append_of_pos hparts, List.takeWhile_cons_of_neg hends, List.append_nil]
  have hdrop : (number ++ unit :: rest).dropWhile isNumberPart = unit :: rest := by
    rw [List.dropWhile_append_of_pos hparts, List.dropWhile_cons_of_neg hends]
  rw [countComponents, if_neg (by simp), hdrop, htake]
  split
  · next hnil => cases hnil
  · next unit' rest' hcons =>
    cases hcons
    split
    · next hnone => simp [hleft] at hnone
    · next left' hsome =>
      obtain rfl : left = left' := Option.some.inj (hleft.symm.trans hsome)
      rw [if_pos hnumber]

theorem exists_round_of_countComponents {n : Nat} (hne : cs ≠ [])
    (h : countComponents fraction units cs = some n) : ∃ left rest m,
      Round fraction (units, cs) (left, rest) ∧ countComponents fraction left rest = some m ∧
        n = m + 1 := by
  rw [countComponents, if_neg (by simpa using hne)] at h
  split at h
  · cases h
  · next unit rest hdrop =>
    split at h
    · cases h
    · next left hleft =>
      split at h
      · next hnumber =>
        obtain ⟨m, hm, rfl⟩ := Option.map_eq_some_iff.mp h
        have hends : isNumberPart unit = false := by
          have hhead := List.head?_dropWhile_not isNumberPart cs
          rw [hdrop] at hhead
          exact hhead
        have hround : Round fraction (units, cs.takeWhile isNumberPart ++ unit :: rest)
            (left, rest) :=
          .intro (fun c hc => List.all_eq_true.mp List.all_takeWhile c hc) hends hleft hnumber
        rw [← hdrop, List.takeWhile_append_dropWhile] at hround
        exact ⟨left, rest, m, hround, hm, rfl⟩
      · cases h

theorem countComponents_of_rounds {n : Nat} {state : List Char × List Char}
    (h : Rounds fraction n state) : countComponents fraction state.1 state.2 = some n := by
  induction h with
  | done => exact countComponents_nil
  | more hround _ ih =>
    rw [countComponents_of_round hround, ih]
    rfl

/-- The components are counted by the rounds that read the text. -/
theorem countComponents_eq_some_iff {n : Nat} :
    countComponents fraction units cs = some n ↔ Rounds fraction n (units, cs) := by
  constructor
  · intro h
    induction n generalizing units cs with
    | zero =>
      by_cases hcs : cs = []
      · exact hcs ▸ .done
      · obtain ⟨-, -, m, -, -, hm⟩ := exists_round_of_countComponents hcs h
        cases hm
    | succ n ih =>
      have hne : cs ≠ [] := by
        rintro rfl
        rw [countComponents_nil] at h
        cases h
      obtain ⟨left, rest, m, hround, hm, hn⟩ := exists_round_of_countComponents hne h
      cases hn
      exact .more hround (ih hm)
  · exact countComponents_of_rounds

theorem countComponents_pos_iff {n : Nat} (h : countComponents fraction units cs = some n) :
    0 < n ↔ cs ≠ [] := by
  constructor
  · rintro hpos rfl
    rw [countComponents_nil] at h
    cases h
    exact absurd hpos (Nat.lt_irrefl 0)
  · intro hne
    obtain ⟨-, -, m, -, -, rfl⟩ := exists_round_of_countComponents hne h
    exact Nat.succ_pos m

/-! ### Components -/

/-- Components with units among those given, in their order; `fraction` tells whether the number
before the last of them may have a fraction. -/
inductive Components (fraction : Bool) : List Char → List Char → Prop
  | done : Components fraction [] []
  | skip {units cs : List Char} (unit : Char) (tail : Components fraction units cs) :
      Components fraction (unit :: units) cs
  | read {units number rest : List Char} (unit : Char)
      (number_ok : IsNumber (fraction && units.isEmpty) number)
      (tail : Components fraction units rest) :
      Components fraction (unit :: units) (number ++ unit :: rest)

/-- Units that can be told from one another and from what stands in numbers. -/
structure Distinct (units : List Char) : Prop where
  nodup : units.Nodup
  ends : ∀ unit ∈ units, isNumberPart unit = false

theorem Distinct.nil : Distinct [] where
  nodup := List.nodup_nil
  ends := fun _ h => absurd h List.not_mem_nil

theorem Distinct.cons (h : Distinct units) (hnew : unit ∉ units)
    (hends : isNumberPart unit = false) : Distinct (unit :: units) where
  nodup := List.nodup_cons.mpr ⟨hnew, h.nodup⟩
  ends := List.forall_mem_cons.mpr ⟨hends, h.ends⟩

theorem Distinct.tail (h : Distinct (unit :: units)) : Distinct units where
  nodup := (List.nodup_cons.mp h.nodup).2
  ends := fun u hu => h.ends u (List.mem_cons_of_mem unit hu)

theorem unitsAfter_eq_some_iff : unitsAfter unit units = some left ↔
    ∃ before, units = before ++ unit :: left ∧ unit ∉ before := by
  constructor
  · intro h
    induction units with
    | nil => cases h
    | cons u units ih =>
      unfold unitsAfter at h
      by_cases hu : u = unit
      · rw [if_pos hu] at h
        cases h
        exact ⟨[], by rw [hu]; rfl, List.not_mem_nil⟩
      · rw [if_neg hu] at h
        obtain ⟨before, rfl, hfree⟩ := ih h
        exact ⟨u :: before, rfl, by simp [hfree, Ne.symm hu]⟩
  · rintro ⟨before, rfl, hfree⟩
    induction before with
    | nil => exact if_pos rfl
    | cons u before ih =>
      rw [List.mem_cons, not_or] at hfree
      rw [List.cons_append, unitsAfter, if_neg (Ne.symm hfree.1)]
      exact ih hfree.2

theorem IsNumber.parts (h : IsNumber fraction cs) : ∀ c ∈ cs, isNumberPart c = true := by
  intro c hc
  cases fraction with
  | true => exact isNumberPart_iff.mpr (Fractional.chars h c hc)
  | false => exact isNumberPart_iff.mpr (.inl (Run.digits h c hc))

theorem Components.skip_append (before : List Char) (h : Components fraction units cs) :
    Components fraction (before ++ units) cs := by
  induction before with
  | nil => exact h
  | cons u before ih => exact .skip u ih

theorem Components.none (units : List Char) : Components fraction units [] := by
  simpa using Components.skip_append units Components.done

theorem Components.of_round {before after : List Char × List Char} (h : Round fraction before after)
    (hrest : Components fraction after.1 after.2) : Components fraction before.1 before.2 := by
  obtain @⟨unit, _, _, number, rest, hparts, -, hleft, hnumber⟩ := h
  obtain ⟨before, rfl, -⟩ := unitsAfter_eq_some_iff.mp hleft
  exact .skip_append before (.read unit ((isNumber_iff hparts).mp hnumber) hrest)

theorem components_of_rounds {n : Nat} {state : List Char × List Char}
    (h : Rounds fraction n state) : Components fraction state.1 state.2 := by
  induction h with
  | done => exact .none _
  | more hround _ ih => exact .of_round hround ih

theorem components_of_countComponents {n : Nat} (h : countComponents fraction units cs = some n) :
    Components fraction units cs :=
  components_of_rounds (countComponents_eq_some_iff.mp h)

theorem Round.skip (hunits : unit ∉ units) (h : Round fraction (units, cs) (left, rest)) :
    Round fraction (unit :: units, cs) (left, rest) := by
  obtain ⟨hparts, hends, hleft, hnumber⟩ := h
  obtain ⟨before, rfl, hfree⟩ := unitsAfter_eq_some_iff.mp hleft
  refine .intro hparts hends (unitsAfter_eq_some_iff.mpr ⟨unit :: before, rfl, ?_⟩) hnumber
  rw [List.mem_cons, not_or]
  refine ⟨?_, hfree⟩
  rintro rfl
  exact hunits (List.mem_append_right _ List.mem_cons_self)

theorem Components.count (hunits : Distinct units) (h : Components fraction units cs) :
    ∃ n, countComponents fraction units cs = some n := by
  induction h with
  | done => exact ⟨0, countComponents_nil⟩
  | @skip units cs unit _ ih =>
    obtain ⟨n, hn⟩ := ih hunits.tail
    by_cases hcs : cs = []
    · exact ⟨0, by rw [hcs, countComponents_nil]⟩
    · obtain ⟨left, rest, m, hround, hm, -⟩ := exists_round_of_countComponents hcs hn
      have hskip := hround.skip (List.nodup_cons.mp hunits.nodup).1
      exact ⟨m + 1, by rw [countComponents_of_round hskip, hm]; rfl⟩
  | @read units number rest unit hnumber _ ih =>
    obtain ⟨n, hn⟩ := ih hunits.tail
    have hround : Round fraction (unit :: units, number ++ unit :: rest) (units, rest) :=
      .intro hnumber.parts (hunits.ends unit List.mem_cons_self) (if_pos rfl)
        ((isNumber_iff hnumber.parts).mpr hnumber)
    exact ⟨n + 1, by rw [countComponents_of_round hround, hn]; rfl⟩

/-- What the rounds get through is the sequences of components. -/
theorem countComponents_iff (hunits : Distinct units) :
    (∃ n, countComponents fraction units cs = some n) ↔ Components fraction units cs := by
  constructor
  · rintro ⟨n, hn⟩
    exact components_of_countComponents hn
  · exact fun h => h.count hunits

theorem countComponents_pos (hunits : Distinct units) :
    (∃ n, countComponents fraction units cs = some n ∧ 0 < n) ↔
      Components fraction units cs ∧ cs ≠ [] := by
  rw [← countComponents_iff hunits]
  constructor
  · rintro ⟨n, hn, hpos⟩
    exact ⟨⟨n, hn⟩, (countComponents_pos_iff hn).mp hpos⟩
  · rintro ⟨⟨n, hn⟩, hne⟩
    exact ⟨n, hn, (countComponents_pos_iff hn).mpr hne⟩

/-! ### Bodies -/

theorem Components.mem (h : Components fraction units cs) {c : Char} (hc : c ∈ cs) :
    c ∈ units ∨ isNumberPart c = true := by
  induction h with
  | done => cases hc
  | skip unit _ ih => exact (ih hc).imp_left (List.mem_cons_of_mem unit)
  | read unit hnumber _ ih =>
    rcases List.mem_append.mp hc with hc | hc
    · exact .inr (hnumber.parts c hc)
    · rcases List.mem_cons.mp hc with rfl | hc
      · exact .inl List.mem_cons_self
      · exact (ih hc).imp_left (List.mem_cons_of_mem unit)

/-- What follows the `P`: components of the date, and if there is a `T`, some of the time. -/
inductive Body (units : Units) : List Char → Prop
  | date {cs : List Char} (date_ok : Components false units.date cs) (nonempty : cs ≠ []) :
      Body units cs
  | time {date time : List Char} (date_ok : Components false units.date date)
      (time_ok : Components true units.time time) (nonempty : time ≠ []) :
      Body units (date ++ 'T' :: time)

theorem isBody_iff {kind : Units} (hdate : Distinct kind.date) (htime : Distinct kind.time)
    (hT : 'T' ∉ kind.date) : isBody kind cs = true ↔ Body kind cs := by
  have hfree : ∀ date, Components false kind.date date → 'T' ∉ date := by
    intro date h hmem
    rcases h.mem hmem with hunit | hpart
    · exact hT hunit
    · exact absurd hpart (by decide)
  unfold isBody
  constructor
  · intro h
    split at h
    · next date time hcut =>
      obtain ⟨rfl, -⟩ := cutFirst_eq_some_iff.mp hcut
      split at h
      · next m n hm hn =>
        obtain ⟨hcomponents, hne⟩ := (countComponents_pos htime).mp ⟨n, hn, of_decide_eq_true h⟩
        exact .time (components_of_countComponents hm) hcomponents hne
      · cases h
    · split at h
      · next n hn =>
        obtain ⟨hcomponents, hne⟩ := (countComponents_pos hdate).mp ⟨n, hn, of_decide_eq_true h⟩
        exact .date hcomponents hne
      · cases h
  · rintro (⟨hcomponents, hne⟩ | ⟨hcomponents, htimes, hne⟩)
    · obtain ⟨n, hn, hpos⟩ := (countComponents_pos hdate).mpr ⟨hcomponents, hne⟩
      rw [cutFirst_eq_none_iff.mpr (hfree cs hcomponents), hn]
      exact decide_eq_true hpos
    · obtain ⟨m, hm⟩ := hcomponents.count hdate
      obtain ⟨n, hn, hpos⟩ := (countComponents_pos htime).mpr ⟨htimes, hne⟩
      rw [cutFirst_append (hfree _ hcomponents)]
      simp only [hm, hn]
      exact decide_eq_true hpos

def signOf (negative : Bool) : List Char := if negative then ['-'] else []

theorem isDuration_iff {kind : Units} : isDuration kind cs = true ↔
    ∃ negative body, cs = signOf negative ++ 'P' :: body ∧ isBody kind body = true := by
  unfold isDuration
  constructor
  · intro h
    split at h
    · next body hbody =>
      unfold unsigned at hbody
      split at hbody
      · exact ⟨true, body, by rw [hbody]; rfl, h⟩
      · exact ⟨false, body, hbody, h⟩
    · cases h
  · rintro ⟨negative, body, rfl, hbody⟩
    cases negative with
    | true => exact hbody
    | false => exact hbody

/-! ### Forms -/

def component (unit : Char) (number : Option (List Char)) : List Char :=
  (number.map (· ++ [unit])).getD []

theorem component_append_ne_nil_iff {number : Option (List Char)} :
    component unit number ++ cs ≠ [] ↔ number.isSome = true ∨ cs ≠ [] := by
  cases number with
  | none => simp [component]
  | some ds => simp [component]

theorem component_ne_nil_iff {number : Option (List Char)} :
    component unit number ≠ [] ↔ number.isSome = true := by
  rw [← List.append_nil (component unit number), component_append_ne_nil_iff]
  simp

theorem components_nil_iff : Components fraction [] cs ↔ cs = [] := by
  constructor
  · rintro ⟨⟩
    rfl
  · rintro rfl
    exact .done

theorem components_cons_iff : Components fraction (unit :: units) cs ↔ ∃ number rest,
    (∀ ds ∈ number, IsNumber (fraction && units.isEmpty) ds) ∧ Components fraction units rest ∧
      component unit number ++ rest = cs := by
  constructor
  · rintro (⟨⟩ | ⟨_, htail⟩ | ⟨_, hnumber, htail⟩)
    · exact ⟨none, cs, fun ds hds => (nomatch hds), htail, rfl⟩
    · next number rest =>
      refine ⟨some number, rest, ?_, htail, ?_⟩
      · rintro ds ⟨⟩
        exact hnumber
      · simp [component]
  · rintro ⟨number, rest, hnumber, htail, rfl⟩
    cases number with
    | none => exact .skip unit htail
    | some ds =>
      have hread := Components.read unit (hnumber ds rfl) htail
      simpa [component] using hread

/-- The time of day in components. -/
structure TimeForm where
  hours : Option (List Char)
  minutes : Option (List Char)
  seconds : Option (List Char)

structure DayTimeForm where
  negative : Bool
  days : Option (List Char)
  time : Option TimeForm

structure YearMonthForm where
  negative : Bool
  years : Option (List Char)
  months : Option (List Char)

namespace TimeForm

def written (f : TimeForm) : List Char :=
  component 'H' f.hours ++ (component 'M' f.minutes ++ component 'S' f.seconds)

/-- There is a component, and only seconds have a fraction. -/
structure Proper (f : TimeForm) : Prop where
  hours : ∀ ds ∈ f.hours, Run ds
  minutes : ∀ ds ∈ f.minutes, Run ds
  seconds : ∀ ds ∈ f.seconds, Fractional ds
  nonempty : f.hours.isSome ∨ f.minutes.isSome ∨ f.seconds.isSome

end TimeForm

namespace DayTimeForm

def written (f : DayTimeForm) : List Char :=
  signOf f.negative ++ 'P' :: (component 'D' f.days ++
    (f.time.map fun time => 'T' :: time.written).getD [])

/-- There is a component, and one of the time if the time is given. -/
structure Proper (f : DayTimeForm) : Prop where
  days : ∀ ds ∈ f.days, Run ds
  time : ∀ time ∈ f.time, time.Proper
  nonempty : f.days.isSome ∨ f.time.isSome

end DayTimeForm

namespace YearMonthForm

def written (f : YearMonthForm) : List Char :=
  signOf f.negative ++ 'P' :: (component 'Y' f.years ++ component 'M' f.months)

structure Proper (f : YearMonthForm) : Prop where
  years : ∀ ds ∈ f.years, Run ds
  months : ∀ ds ∈ f.months, Run ds
  nonempty : f.years.isSome ∨ f.months.isSome

end YearMonthForm

theorem time_iff : Components true ['H', 'M', 'S'] cs ∧ cs ≠ [] ↔
    ∃ f : TimeForm, f.Proper ∧ f.written = cs := by
  have hsome : ∀ f : TimeForm, f.written ≠ [] ↔
      f.hours.isSome = true ∨ f.minutes.isSome = true ∨ f.seconds.isSome = true := by
    intro f
    unfold TimeForm.written
    rw [component_append_ne_nil_iff, component_append_ne_nil_iff, component_ne_nil_iff]
  constructor
  · rintro ⟨hcomponents, hne⟩
    obtain ⟨hours, _, hhours, htail, rfl⟩ := components_cons_iff.mp hcomponents
    obtain ⟨minutes, _, hminutes, hlast, rfl⟩ := components_cons_iff.mp htail
    obtain ⟨seconds, _, hseconds, hnil, rfl⟩ := components_cons_iff.mp hlast
    cases components_nil_iff.mp hnil
    rw [List.append_nil] at hne ⊢
    exact ⟨⟨hours, minutes, seconds⟩, ⟨hhours, hminutes, hseconds, (hsome ⟨_, _, _⟩).mp hne⟩, rfl⟩
  · rintro ⟨f, hf, rfl⟩
    refine ⟨?_, (hsome f).mpr hf.nonempty⟩
    refine components_cons_iff.mpr ⟨f.hours, _, hf.hours, ?_, rfl⟩
    refine components_cons_iff.mpr ⟨f.minutes, _, hf.minutes, ?_, rfl⟩
    exact components_cons_iff.mpr ⟨f.seconds, [], hf.seconds, .done, List.append_nil _⟩

theorem days_iff : Components false ['D'] cs ↔
    ∃ days : Option (List Char), (∀ ds ∈ days, Run ds) ∧ component 'D' days = cs := by
  rw [components_cons_iff]
  refine exists_congr fun days => ?_
  constructor
  · rintro ⟨_, hdays, hnil, rfl⟩
    cases components_nil_iff.mp hnil
    exact ⟨hdays, (List.append_nil _).symm⟩
  · rintro ⟨hdays, rfl⟩
    exact ⟨[], hdays, .done, List.append_nil _⟩

theorem isDuration_dayTime_iff : isDuration dayTime cs = true ↔
    ∃ f : DayTimeForm, f.Proper ∧ f.written = cs := by
  have hdates : Distinct dayTime.date := Distinct.nil.cons (by decide) (by decide)
  have htimes : Distinct dayTime.time :=
    ((Distinct.nil.cons (by decide) (by decide)).cons (by decide) (by decide)).cons
      (by decide) (by decide)
  simp only [isDuration_iff, isBody_iff hdates htimes (by decide)]
  constructor
  · rintro ⟨negative, _, rfl, ⟨hdate, hne⟩ | ⟨hdate, htime, hne⟩⟩
    · obtain ⟨days, hdays, rfl⟩ := days_iff.mp hdate
      refine ⟨⟨negative, days, none⟩, ⟨hdays, fun time h => (nomatch h), ?_⟩, ?_⟩
      · exact .inl (component_ne_nil_iff.mp hne)
      · simp [DayTimeForm.written]
    · obtain ⟨days, hdays, rfl⟩ := days_iff.mp hdate
      obtain ⟨time, hproper, rfl⟩ := time_iff.mp ⟨htime, hne⟩
      refine ⟨⟨negative, days, some time⟩, ⟨hdays, ?_, .inr rfl⟩, rfl⟩
      rintro _ ⟨⟩
      exact hproper
  · rintro ⟨⟨negative, days, time⟩, ⟨hdays, htime, hsome⟩, rfl⟩
    have hdate : Components false dayTime.date (component 'D' days) :=
      days_iff.mpr ⟨days, hdays, rfl⟩
    refine ⟨negative, _, rfl, ?_⟩
    cases time with
    | none =>
      have hne : component 'D' days ≠ [] := component_ne_nil_iff.mpr (hsome.resolve_right nofun)
      simpa using Body.date hdate hne
    | some time =>
      obtain ⟨htime, hne⟩ := time_iff.mpr ⟨time, htime time rfl, rfl⟩
      exact .time hdate htime hne

theorem isDuration_yearMonth_iff : isDuration yearMonth cs = true ↔
    ∃ f : YearMonthForm, f.Proper ∧ f.written = cs := by
  have hdates : Distinct yearMonth.date :=
    (Distinct.nil.cons (by decide) (by decide)).cons (by decide) (by decide)
  have htimes : Distinct yearMonth.time := .nil
  simp only [isDuration_iff, isBody_iff hdates htimes (by decide)]
  constructor
  · rintro ⟨negative, _, rfl, ⟨hdate, hne⟩ | ⟨-, htime, hne⟩⟩
    · obtain ⟨years, _, hyears, htail, rfl⟩ := components_cons_iff.mp hdate
      obtain ⟨months, _, hmonths, hnil, rfl⟩ := components_cons_iff.mp htail
      cases components_nil_iff.mp hnil
      rw [List.append_nil, component_append_ne_nil_iff, component_ne_nil_iff] at hne
      exact ⟨⟨negative, years, months⟩, ⟨hyears, hmonths, hne⟩, by simp [YearMonthForm.written]⟩
    · exact absurd (components_nil_iff.mp htime) hne
  · rintro ⟨f, hf, rfl⟩
    refine ⟨f.negative, _, rfl, .date ?_ ?_⟩
    · refine components_cons_iff.mpr ⟨f.years, _, hf.years, ?_, rfl⟩
      exact components_cons_iff.mpr ⟨f.months, [], hf.months, .done, List.append_nil _⟩
    · rw [component_append_ne_nil_iff, component_ne_nil_iff]
      exact hf.nonempty

end InfoModel.Duration

namespace InfoModel.Datatype
open InfoModel.Text

/-- Components are read by rounds, and these come to an end for every text. A text is accepted as a
duration where one of the forms of its kind writes it, blanks around it left out, and is kept as
written; it is refused as such where none does. -/
theorem duration_byForm (text : String) :
    (∀ fraction, WellFounded fun after before => Duration.Round fraction before after) ∧
    (∀ fraction units cs n, Duration.countComponents fraction units cs = some n ↔
      Duration.Rounds fraction n (units, cs)) ∧
    (∀ v, dayTimeDuration.parse text = .ok v ↔ v = .duration (trim text) ∧
      ∃ f : Duration.DayTimeForm, f.Proper ∧ f.written = trimChars text.toList) ∧
    (∀ e, dayTimeDuration.parse text = .error e ↔
      e = .invalidValue "day-time-duration" text .notDayTimeDuration ∧
      ¬ ∃ f : Duration.DayTimeForm, f.Proper ∧ f.written = trimChars text.toList) ∧
    (∀ v, yearMonthDuration.parse text = .ok v ↔ v = .duration (trim text) ∧
      ∃ f : Duration.YearMonthForm, f.Proper ∧ f.written = trimChars text.toList) ∧
    (∀ e, yearMonthDuration.parse text = .error e ↔
      e = .invalidValue "year-month-duration" text .notYearMonthDuration ∧
      ¬ ∃ f : Duration.YearMonthForm, f.Proper ∧ f.written = trimChars text.toList) := by
  simp only [← Duration.isDuration_dayTime_iff, ← Duration.isDuration_yearMonth_iff]
  refine ⟨fun fraction => Duration.wellFounded_round, ?_, ?_, ?_, ?_, ?_⟩
  · exact fun fraction units cs n => Duration.countComponents_eq_some_iff
  · exact fun v => map_readText_eq_ok_iff.trans and_comm
  · exact fun e => map_readText_eq_error_iff.trans and_comm
  · exact fun v => map_readText_eq_ok_iff.trans and_comm
  · exact fun e => map_readText_eq_error_iff.trans and_comm

end InfoModel.Datatype

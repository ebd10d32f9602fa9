import InfoModel.Proofs.Name.Form
import InfoModel.Proofs.Unicode.Blank

/-!
# Written names

The written form of a name is not escaped, but it tells the name apart from all others, and it reads
as that name or, if there are braces in the namespace, as none. Main statement:
`QName.text_faithful`.
-/

namespace InfoModel
open InfoModel.Text InfoModel.Unicode

namespace QName
variable {p q : QName} {s : String}

/-- The name is one that can be made. -/
def Made (q : QName) : Prop := ∃ space localName, make space localName = .ok q

theorem isNcName_of_made (h : q.Made) : isNcName q.localName.toList = true := by
  obtain ⟨space, localName, h⟩ := h
  obtain ⟨hname, rfl⟩ := make_eq_ok_iff.mp h
  exact hname

theorem make_of_made (h : q.Made) : make q.space q.localName = .ok q := by
  obtain ⟨space, localName, h⟩ := h
  obtain ⟨hname, rfl⟩ := make_eq_ok_iff.mp h
  refine make_eq_ok_iff.mpr ⟨hname, ?_⟩
  rw [Option.filter_filter]
  simp

theorem toList_text_of_some (h : q.space = some s) :
    q.text.toList = ['Q', '\x7b'] ++ (s.toList ++ '\x7d' :: q.localName.toList) := by
  unfold text
  rw [h]
  simp

theorem text_of_none (h : q.space = none) : q.text = q.localName := by
  unfold text
  rw [h]

theorem eq_of_parts (hspace : p.space = q.space) (hlocal : p.localName = q.localName) : p = q := by
  cases p
  cases q
  cases hspace
  cases hlocal
  rfl

theorem not_mem_localName (h : q.Made) {c : Char} (hc : isNamePart c = false) :
    c ∉ q.localName.toList := not_mem_of_isNcName (isNcName_of_made h) hc

theorem eq_of_append_eq {as bs as' bs' : List Char} (h : '\x7d' ∉ bs) (h' : '\x7d' ∉ bs')
    (heq : as ++ '\x7d' :: bs = as' ++ '\x7d' :: bs') : as = as' ∧ bs = bs' := by
  have hcut := cutFirst_append (by simpa using h : '\x7d' ∉ bs.reverse) as.reverse
  have hcut' := cutFirst_append (by simpa using h' : '\x7d' ∉ bs'.reverse) as'.reverse
  have hreverse : bs.reverse ++ '\x7d' :: as.reverse = bs'.reverse ++ '\x7d' :: as'.reverse := by
    simpa using congrArg List.reverse heq
  rw [hreverse, hcut'] at hcut
  simp only [Option.some.injEq, Prod.mk.injEq, List.reverse_inj] at hcut
  exact ⟨hcut.2.symm, hcut.1.symm⟩

theorem text_injective (hp : p.Made) (hq : q.Made) (h : p.text = q.text) : p = q := by
  have hlist := congrArg String.toList h
  have hopen : ∀ {r : QName}, r.Made → '\x7b' ∉ r.localName.toList := fun hr =>
    not_mem_localName hr (by decide)
  have hclose : ∀ {r : QName}, r.Made → '\x7d' ∉ r.localName.toList := fun hr =>
    not_mem_localName hr (by decide)
  cases hps : p.space with
  | none =>
    cases hqs : q.space with
    | none =>
      rw [text_of_none hps, text_of_none hqs] at h
      exact eq_of_parts (hps.trans hqs.symm) h
    | some t =>
      rw [text_of_none hps, toList_text_of_some hqs] at hlist
      exact absurd (by rw [hlist]; simp) (hopen hp)
  | some s =>
    cases hqs : q.space with
    | none =>
      rw [toList_text_of_some hps, text_of_none hqs] at hlist
      exact absurd (by rw [← hlist]; simp) (hopen hq)
    | some t =>
      rw [toList_text_of_some hps, toList_text_of_some hqs, List.append_cancel_left_eq] at hlist
      obtain ⟨hspace, hlocal⟩ := eq_of_append_eq (hclose hp) (hclose hq) hlist
      rw [String.toList_inj] at hspace hlocal
      exact eq_of_parts (by rw [hps, hqs, hspace]) hlocal

theorem not_blank_of_mem (h : q.Made) {c : Char} (hc : c ∈ q.localName.toList) :
    isBlank c = false := by
  rw [← Bool.not_eq_true]
  intro hblank
  exact not_mem_localName h (isNamePart_eq_false_of_isBlank hblank) hc

theorem trimChars_text (h : q.Made) : trimChars q.text.toList = q.text.toList := by
  have hlast : ∀ c ∈ q.localName.toList.getLast?, isBlank c = false := fun c hc =>
    not_blank_of_mem h (List.mem_of_getLast? hc)
  cases hs : q.space with
  | none =>
    rw [text_of_none hs]
    exact trimChars_eq_self (fun c hc => not_blank_of_mem h (List.mem_of_head? hc)) hlast
  | some s =>
    have hne : q.localName.toList ≠ [] := by
      intro hnil
      have hname := isNcName_of_made h
      rw [hnil] at hname
      cases hname
    rw [toList_text_of_some hs]
    refine trimChars_eq_self ?_ ?_
    · intro c hc
      cases hc
      rfl
    · rw [List.getLast?_append_of_ne_nil _ (by simp), List.getLast?_append_of_ne_nil _ (by simp),
        List.getLast?_cons_of_ne_nil hne]
      exact hlast

/-- A name whose namespace is free of braces reads as that name, whatever is bound. -/
theorem parse_text_of_some (h : q.Made) (hs : q.space = some s) (hopen : '\x7b' ∉ s.toList)
    (hclose : '\x7d' ∉ s.toList) (b : Bindings) (default : Option String) :
    parse q.text b default = .ok q := by
  have hproper : (NameForm.braced s.toList q.localName.toList).Proper :=
    ⟨⟨hopen, hclose⟩, isNcName_of_made h⟩
  have hparts := NameForm.parts?_written hproper
  have hmake := make_of_made h
  rw [hs] at hmake
  unfold NameForm.written at hparts
  dsimp only at hparts
  rw [parse_eq, trimChars_text h, toList_text_of_some hs, hparts]
  simp [ofForm, hopen, hmake]

theorem parse_text_of_none (h : q.Made) (hs : q.space = none) (b : Bindings) :
    parse q.text b none = .ok q := by
  have hparts := NameForm.parts?_written (f := .bare q.localName.toList) (isNcName_of_made h)
  have hmake := make_of_made h
  rw [hs] at hmake
  unfold NameForm.written at hparts
  dsimp only at hparts
  rw [parse_eq, trimChars_text h, text_of_none hs, hparts]
  simp [ofForm, hmake]

/-- What is read of a name with a brace in its namespace ends too early, so a brace is left in the
namespace or in the local part. -/
theorem parse_text_of_brace (h : q.Made) (hs : q.space = some s)
    (hbrace : '\x7b' ∈ s.toList ∨ '\x7d' ∈ s.toList) (b : Bindings) (default : Option String) :
    ∃ name cause, parse q.text b default = .error (.invalidName name cause) := by
  obtain ⟨uri, rest, hcut, huri⟩ := List.eq_append_cons_of_mem
    (show '\x7d' ∈ s.toList ++ '\x7d' :: q.localName.toList by simp)
  have hparts : NameForm.parts? (trimChars q.text.toList) = some (.braced uri rest) := by
    unfold NameForm.parts?
    rw [trimChars_text h, toList_text_of_some hs, afterPrefix?_append]
    dsimp only
    rw [hcut, cutFirst_append huri]
    rfl
  rw [parse_eq, hparts]
  unfold ofForm
  dsimp only
  by_cases hopen : '\x7b' ∈ uri
  · rw [if_pos (by simpa using hopen)]
    exact ⟨_, _, rfl⟩
  · rw [if_neg (by simpa using hopen)]
    cases hmake : make (some (String.ofList uri)) (String.ofList rest) with
    | error e =>
      obtain ⟨cause, rfl⟩ := cause_of_make hmake
      exact ⟨_, _, rfl⟩
    | ok r =>
      -- a local part free of braces begins behind the last brace, so the namespace was free of them
      have hrest := (make_eq_ok_iff.mp hmake).1
      rw [String.toList_ofList] at hrest
      have hsame := eq_of_append_eq (not_mem_localName h (by decide))
        (not_mem_of_isNcName hrest (by decide)) hcut
      rw [hsame.1] at hbrace
      exact absurd hbrace (by simp [hopen, huri])

/-- Names that are made are told apart by their written forms. The written form of a name with a
namespace reads as the name wherever it is read, unless there are braces in the namespace, in which
case it reads as no name; that of a name without one reads as the name where no namespace is given
for bare names. -/
theorem text_faithful (hq : q.Made) :
    (∀ p : QName, p.Made → p.text = q.text → p = q) ∧
    ∀ (b : Bindings) (default : Option String),
      (∀ s, q.space = some s → '\x7b' ∉ s.toList → '\x7d' ∉ s.toList →
        parse q.text b default = .ok q) ∧
      (q.space = none → parse q.text b none = .ok q) ∧
      ∀ s, q.space = some s → '\x7b' ∈ s.toList ∨ '\x7d' ∈ s.toList →
        ∃ name cause, parse q.text b default = .error (.invalidName name cause) :=
  ⟨fun _ hp h => text_injective hp hq h, fun b default =>
    ⟨fun _ hs hopen hclose => parse_text_of_some hq hs hopen hclose b default,
      fun hs => parse_text_of_none hq hs b,
      fun _ hs hbrace => parse_text_of_brace hq hs hbrace b default⟩⟩

theorem text_faithful_braces :
    ∃ q : QName, make (some "a\x7db") "c" = .ok q ∧ q.text = "Q\x7ba\x7db\x7dc" ∧
      (∀ p : QName, p.Made → p.text = q.text → p = q) ∧
      ∃ name cause, parse q.text .empty none = .error (.invalidName name cause) := by
  have hq : make (some "a\x7db") "c" = .ok ⟨some "a\x7db", "c"⟩ := by decide
  obtain ⟨happart, hread⟩ := text_faithful ⟨_, _, hq⟩
  obtain ⟨-, -, hbrace⟩ := hread .empty none
  exact ⟨_, hq, rfl, happart, hbrace "a\x7db" rfl (.inr (by decide))⟩

end QName

end InfoModel

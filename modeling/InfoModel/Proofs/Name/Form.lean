import InfoModel.Proofs.Collection.Sorted
import InfoModel.Proofs.Module.Validity
import InfoModel.Proofs.Text.Cut

/-!
# Forms of references

A reference is read if it is written in one of three forms, and no text is written in two of them:
the namespace in braces, a prefix before a colon, or a bare local name. Main statement:
`QName.parse_grammar`.
-/

namespace InfoModel
open InfoModel.Text InfoModel.Unicode

theorem isNamePart_of_isNameStart {c : Char} (h : isNameStart c = true) : isNamePart c = true := by
  unfold isNameStart isAlphabetic at h
  unfold isNamePart isAlphanumeric
  by_cases hc : c.toNat < 128
  · simp only [hc, if_true, Bool.or_eq_true, decide_eq_true_eq] at h ⊢
    tauto
  · simp only [hc, if_false, Bool.or_eq_true, decide_eq_true_eq] at h ⊢
    tauto

theorem isNamePart_of_mem {cs : List Char} (h : isNcName cs = true) {c : Char} (hc : c ∈ cs) :
    isNamePart c = true := by
  cases cs with
  | nil => exact absurd hc List.not_mem_nil
  | cons d cs =>
    rw [isNcName_cons, Bool.and_eq_true, List.all_eq_true] at h
    rcases List.mem_cons.mp hc with rfl | hc
    · exact isNamePart_of_isNameStart h.1
    · exact h.2 c hc

theorem not_mem_of_isNcName {cs : List Char} (h : isNcName cs = true) {c : Char}
    (hc : isNamePart c = false) : c ∉ cs := by
  intro hmem
  rw [isNamePart_of_mem h hmem] at hc
  cases hc

theorem QName.make_eq_ok_iff {space : Option String} {localName : String} {q : QName} :
    make space localName = .ok q ↔ isNcName localName.toList = true ∧
      ⟨space.filter fun s => !s.isEmpty, localName⟩ = q := by
  unfold make isNcName
  cases nameFault? localName.toList with
  | none => simp
  | some cause => simp

theorem QName.cause_of_make {space : Option String} {localName : String} {e : Fault}
    (h : make space localName = .error e) : ∃ cause, e = .invalidName localName cause := by
  unfold make at h
  split at h
  · cases h
    exact ⟨_, rfl⟩
  · cases h

/-- A reference in parts: with its namespace in braces, with a prefix, or as a local name alone. -/
inductive NameForm where
  | braced (uri localName : List Char)
  | prefixed (head localName : List Char)
  | bare (localName : List Char)

namespace NameForm

def written : NameForm → List Char
  | braced uri localName => ['Q', '\x7b'] ++ (uri ++ '\x7d' :: localName)
  | prefixed head localName => head ++ ':' :: localName
  | bare localName => localName

/-- The parts are names, and a namespace in braces is free of braces. -/
def Proper : NameForm → Prop
  | braced uri localName => ('\x7b' ∉ uri ∧ '\x7d' ∉ uri) ∧ isNcName localName = true
  | prefixed head localName => isNcName head = true ∧ isNcName localName = true
  | bare localName => isNcName localName = true

def localName : NameForm → List Char
  | braced _ l | prefixed _ l | bare l => l

/-- The namespace that a form gives, unless its prefix is not bound; the last binding counts. -/
def space? (bindings : List (String × String)) (default : Option String) :
    NameForm → Option (Option String)
  | braced uri _ => some (some (String.ofList uri))
  | prefixed head _ =>
    (bindings.findRev? fun p => p.1 = String.ofList head).map fun p => some p.2
  | bare _ => some default

/-- The name that a form means; an empty namespace counts as none. -/
def meaning? (bindings : List (String × String)) (default : Option String) (f : NameForm) :
    Option QName :=
  (f.space? bindings default).map fun space =>
    ⟨space.filter fun s => !s.isEmpty, String.ofList f.localName⟩

/-- The parts of a text, told by what delimits them; a brace that is opened has to be closed. -/
def parts? (cs : List Char) : Option NameForm :=
  match afterPrefix? ['Q', '\x7b'] cs with
  | some rest => (cutFirst '\x7d' rest).map fun (uri, localName) => braced uri localName
  | none =>
    match cutFirst ':' cs with
    | some (head, localName) => some (prefixed head localName)
    | none => some (bare cs)

theorem written_of_parts? {cs : List Char} {f : NameForm} (h : parts? cs = some f) :
    f.written = cs := by
  unfold parts? at h
  split at h
  · next rest hrest =>
    obtain ⟨⟨uri, localName⟩, hcut, rfl⟩ := Option.map_eq_some_iff.mp h
    rw [eq_of_afterPrefix? hrest, eq_of_cutFirst hcut]
    rfl
  · split at h
    · next hcut =>
      cases h
      exact (eq_of_cutFirst hcut).symm
    · cases h
      rfl

theorem not_mem_of_parts? {cs uri localName : List Char}
    (h : parts? cs = some (braced uri localName)) : '\x7d' ∉ uri := by
  unfold parts? at h
  split at h
  · obtain ⟨⟨uri', localName'⟩, hcut, hform⟩ := Option.map_eq_some_iff.mp h
    cases hform
    exact not_mem_of_cutFirst hcut
  · split at h <;> cases h

/-- The parts of a proper form are told by its text, so no text is written in two forms. -/
theorem parts?_written {f : NameForm} (h : f.Proper) : parts? f.written = some f := by
  have hname : ∀ {cs : List Char}, isNcName cs = true → '\x7b' ∉ cs ∧ ':' ∉ cs := fun hcs =>
    ⟨not_mem_of_isNcName hcs (by decide), not_mem_of_isNcName hcs (by decide)⟩
  -- only the braced form has an opening brace in it
  have hopen : ∀ {cs : List Char}, '\x7b' ∉ cs → afterPrefix? ['Q', '\x7b'] cs = none := by
    intro cs hcs
    rw [afterPrefix?_eq_none_iff]
    exact fun h => hcs (h.subset (by simp))
  cases f with
  | braced uri localName =>
    unfold parts? written
    rw [afterPrefix?_append]
    dsimp only
    rw [cutFirst_append h.1.2]
    rfl
  | prefixed head localName =>
    obtain ⟨hhead, hlocal⟩ := h
    have hbrace : '\x7b' ∉ head ++ ':' :: localName := by
      simp [(hname hhead).1, (hname hlocal).1]
    unfold parts? written
    rw [hopen hbrace]
    dsimp only
    rw [cutFirst_append (hname hhead).2]
  | bare localName =>
    unfold parts? written
    rw [hopen (hname h).1]
    dsimp only
    rw [cutFirst_eq_none_iff.mpr (hname h).2]

theorem written_injective {f g : NameForm} (hf : f.Proper) (hg : g.Proper)
    (h : f.written = g.written) : f = g := by
  have hparts := parts?_written hf
  rw [h, parts?_written hg] at hparts
  exact (Option.some.inj hparts).symm

end NameForm

namespace QName
variable {q : QName} {e : Fault} {head localName : List Char}
  (bindings : List (String × String)) (default : Option String)

def ofForm (b : Bindings) (default : Option String) (whole : String) :
    NameForm → Except Fault QName
  | .braced uri localName =>
    if uri.contains '\x7b' then .error (.invalidName whole .nestedBrace)
    else make (some (String.ofList uri)) (String.ofList localName)
  | .prefixed head localName => parsePrefixed whole b head localName
  | .bare localName => make default (String.ofList localName)

theorem parse_eq (text : String) (b : Bindings) (default : Option String) :
    parse text b default =
      match NameForm.parts? (trimChars text.toList) with
      | none => .error (.invalidName (trim text) .unterminated)
      | some f => ofForm b default (trim text) f := by
  unfold parse parseBraced NameForm.parts? trim
  cases hopen : afterPrefix? ['Q', '\x7b'] (trimChars text.toList) with
  | some rest =>
    cases hclose : cutFirst '\x7d' rest with
    | none => simp only [hopen, hclose, Option.map_none]
    | some p => simp only [hopen, hclose, Option.map_some, ofForm]
  | none =>
    cases hcolon : cutFirst ':' (trimChars text.toList) with
    | none => simp only [hopen, hcolon, ofForm]
    | some p => simp only [hopen, hcolon, ofForm]

theorem resolve_ofList (head : String) :
    (Bindings.ofList bindings).resolve head =
      (bindings.findRev? fun p => p.1 = head).map (·.2) :=
  SortedMap.get?_ofList bindings head

theorem parsePrefixed_eq (whole : String) (head localName : List Char) :
    parsePrefixed whole (.ofList bindings) head localName =
      if isNcName head = true then
        match bindings.findRev? fun p => p.1 = String.ofList head with
        | none => .error (.unboundPrefix (String.ofList head) whole)
        | some p => make (some p.2) (String.ofList localName)
      else .error (.invalidName (String.ofList head) ((nameFault? head).getD .empty)) := by
  unfold parsePrefixed isNcName
  rw [resolve_ofList]
  cases nameFault? head with
  | none =>
    simp only [Option.isNone_none, if_true]
    cases bindings.findRev? fun p => p.1 = String.ofList head with
    | none => rfl
    | some p => rfl
  | some cause => rfl

theorem ofForm_eq_ok_iff {whole : String} {f : NameForm}
    (hclosed : ∀ uri localName, f = .braced uri localName → '\x7d' ∉ uri) :
    ofForm (.ofList bindings) default whole f = .ok q ↔
      f.Proper ∧ f.meaning? bindings default = some q := by
  cases f with
  | braced uri localName =>
    have hfree := hclosed uri localName rfl
    simp only [ofForm, NameForm.Proper, NameForm.meaning?, NameForm.space?, NameForm.localName]
    by_cases hopen : '\x7b' ∈ uri
    · simp [hopen]
    · simp [hopen, hfree, make_eq_ok_iff]
  | prefixed head localName =>
    simp only [ofForm, parsePrefixed_eq, NameForm.Proper, NameForm.meaning?, NameForm.space?,
      NameForm.localName]
    by_cases hhead : isNcName head = true
    · cases bindings.findRev? fun p => p.1 = String.ofList head with
      | none => simp [hhead]
      | some p => simp [hhead, make_eq_ok_iff]
    · simp [hhead]
  | bare localName =>
    simp [ofForm, NameForm.Proper, NameForm.meaning?, NameForm.space?, NameForm.localName,
      make_eq_ok_iff]

theorem parse_eq_ok_iff (text : String) :
    parse text (.ofList bindings) default = .ok q ↔ ∃ f : NameForm,
      f.Proper ∧ f.written = trimChars text.toList ∧ f.meaning? bindings default = some q := by
  rw [parse_eq]
  constructor
  · intro h
    split at h
    · cases h
    · next f hparts =>
      obtain ⟨hproper, hmeaning⟩ := (ofForm_eq_ok_iff bindings default
        fun uri localName hf => NameForm.not_mem_of_parts? (hf ▸ hparts)).mp h
      exact ⟨f, hproper, NameForm.written_of_parts? hparts, hmeaning⟩
  · rintro ⟨f, hproper, hwritten, hmeaning⟩
    rw [← hwritten, NameForm.parts?_written hproper]
    refine (ofForm_eq_ok_iff bindings default fun uri localName hf => ?_).mpr ⟨hproper, hmeaning⟩
    subst hf
    exact hproper.1.2

theorem cause_of_ofForm {whole : String} {f : NameForm}
    (h : ofForm (.ofList bindings) default whole f = .error e) :
    (∃ head, e = .unboundPrefix head whole ∧ isNcName head.toList = true ∧
      (∀ p ∈ bindings, p.1 ≠ head) ∧ ∃ rest, f = .prefixed head.toList rest) ∨
    ∃ name cause, e = .invalidName name cause := by
  cases f with
  | braced uri localName =>
    unfold ofForm at h
    dsimp only at h
    split at h
    · cases h
      exact .inr ⟨_, _, rfl⟩
    · exact .inr ⟨_, cause_of_make h⟩
  | prefixed head localName =>
    unfold ofForm at h
    dsimp only at h
    rw [parsePrefixed_eq] at h
    split at h
    · next hhead =>
      split at h
      · next hnone =>
        cases h
        rw [List.findRev?_eq_find?_reverse, List.find?_eq_none] at hnone
        refine .inl ⟨String.ofList head, rfl, ?_, ?_, localName, ?_⟩
        · rwa [String.toList_ofList]
        · intro p hp
          simpa using hnone p (List.mem_reverse.mpr hp)
        · rw [String.toList_ofList]
      · exact .inr ⟨_, cause_of_make h⟩
    · cases h
      exact .inr ⟨_, _, rfl⟩
  | bare localName => exact .inr ⟨_, cause_of_make h⟩

theorem cause_of_parse {text : String} (h : parse text (.ofList bindings) default = .error e) :
    (∃ head, e = .unboundPrefix head (trim text) ∧ isNcName head.toList = true ∧
      (∀ p ∈ bindings, p.1 ≠ head) ∧
      ∃ rest, NameForm.parts? (trimChars text.toList) = some (.prefixed head.toList rest)) ∨
    ∃ name cause, e = .invalidName name cause := by
  rw [parse_eq] at h
  split at h
  · cases h
    exact .inr ⟨_, _, rfl⟩
  · next f hparts =>
    rcases cause_of_ofForm bindings default h with ⟨head, he, hname, hfree, rest, rfl⟩ | hcause
    · exact .inl ⟨head, he, hname, hfree, rest, hparts⟩
    · exact .inr hcause

theorem parts?_eq_prefixed_iff {cs head rest : List Char} :
    NameForm.parts? cs = some (.prefixed head rest) ↔
      ¬ ['Q', '\x7b'] <+: cs ∧ cs = head ++ ':' :: rest ∧ ':' ∉ head := by
  rw [← afterPrefix?_eq_none_iff, ← cutFirst_eq_some_iff]
  unfold NameForm.parts?
  cases afterPrefix? ['Q', '\x7b'] cs with
  | some inner => simp
  | none =>
    cases cutFirst ':' cs with
    | none => simp
    | some p => simp [Prod.ext_iff]

theorem parse_eq_unboundPrefix_iff {text head name : String} :
    parse text (.ofList bindings) default = .error (.unboundPrefix head name) ↔
      name = trim text ∧ isNcName head.toList = true ∧ (∀ p ∈ bindings, p.1 ≠ head) ∧
        ∃ rest, ¬ ['Q', '\x7b'] <+: trimChars text.toList ∧
          trimChars text.toList = head.toList ++ ':' :: rest ∧ ':' ∉ head.toList := by
  constructor
  · intro h
    rcases cause_of_parse bindings default h with ⟨head', he, hname, hfree, rest, hparts⟩ | hcause
    · cases he
      exact ⟨rfl, hname, hfree, rest, parts?_eq_prefixed_iff.mp hparts⟩
    · obtain ⟨name', cause, he⟩ := hcause
      cases he
  · rintro ⟨rfl, hname, hfree, rest, hwritten⟩
    have hunbound : (bindings.findRev? fun p => p.1 = head) = none := by
      rw [List.findRev?_eq_find?_reverse, List.find?_eq_none]
      intro p hp
      simpa using hfree p (List.mem_reverse.mp hp)
    rw [parse_eq, parts?_eq_prefixed_iff.mpr hwritten]
    unfold ofForm
    dsimp only
    rw [parsePrefixed_eq, if_pos hname, String.ofList_toList, hunbound]

/-- A reference is read if its text, trimmed, is written in one of three forms, and it means the
name that the form means; no text is written in two forms. It is refused for its prefix if what
stands before the first colon could be one and is not bound, and in all other cases for a part that
is no name. -/
theorem parse_grammar (text : String) :
    (∀ q, parse text (.ofList bindings) default = .ok q ↔ ∃ f : NameForm,
      f.Proper ∧ f.written = trimChars text.toList ∧ f.meaning? bindings default = some q) ∧
    (∀ f g : NameForm, f.Proper → g.Proper → f.written = g.written → f = g) ∧
    (∀ head name, parse text (.ofList bindings) default = .error (.unboundPrefix head name) ↔
      name = trim text ∧ isNcName head.toList = true ∧ (∀ p ∈ bindings, p.1 ≠ head) ∧
        ∃ rest, ¬ ['Q', '\x7b'] <+: trimChars text.toList ∧
          trimChars text.toList = head.toList ++ ':' :: rest ∧ ':' ∉ head.toList) ∧
    ∀ e, parse text (.ofList bindings) default = .error e →
      (∃ head name, e = .unboundPrefix head name) ∨ ∃ name cause, e = .invalidName name cause := by
  refine ⟨fun q => parse_eq_ok_iff bindings default text, fun f g => NameForm.written_injective,
    fun head name => parse_eq_unboundPrefix_iff bindings default, ?_⟩
  intro e h
  rcases cause_of_parse bindings default h with ⟨head, he, -⟩ | hcause
  · exact .inl ⟨head, _, he⟩
  · exact .inr hcause

/-- Of two namespaces bound to a prefix the later one counts. -/
example : parse " p:a " (.ofList [("p", "urn:1"), ("p", "urn:2")]) (some "urn:0") =
    .ok ⟨some "urn:2", "a"⟩ := by decide

end QName

end InfoModel

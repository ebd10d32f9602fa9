import InfoModel.Proofs.Pattern.Local

/-!
# Parts without parts of their own

Escapes, counts, flags and names of groups are read alike in a pattern and in the enclosed pattern,
with one exception: behind the letter of a word edge a brace may be left that nothing closes. Main
statements: `local_readBounds`, `alike_readEscape`.
-/

namespace InfoModel.Pattern
open InfoModel.Text InfoModel.Unicode
open Remainder (rest followedBy)

variable (f : Flags)

/-! ### Counts -/

theorem dropBlank_append (cs : List Char) :
    (cs ++ closing).dropWhile isBlank = cs.dropWhile isBlank ++ closing := by
  induction cs with
  | nil => decide
  | cons c cs ih =>
    rw [List.cons_append, List.dropWhile_cons, List.dropWhile_cons, ih]
    split <;> rfl

theorem Local.dropBlank {ρ : Type} [Remainder ρ] {g : List Char → Option ρ} (hg : Local g) :
    Local fun cs => g (cs.dropWhile isBlank) where
  leaves cs := (hg.leaves _).mono (List.dropWhile_suffix _)
  alike cs := by
    rw [dropBlank_append]
    exact (hg.alike _).mono (List.dropWhile_suffix _)

theorem local_readRepeatCount : Local (readRepeatCount f) := by
  have hdigits := (local_takeSpaced_length f isAsciiDigit (by decide)).bind
    (h := fun ds rest => if ds.isEmpty || UInt32.size ≤ digitsValue ds then none
      else some (digitsValue ds, skip f (rest.dropWhile isBlank)))
    fun ds => .ite .none (Local.dropBlank (Local.skip f (.done (digitsValue ds))))
  refine hdigits.dropBlank.congr fun cs => ?_
  unfold readRepeatCount
  rw [takeSpaced_eq_of_le f _ (List.dropWhile_suffix _).length_le (Nat.le_refl _)]
  rfl

theorem readRepeatCount_closing : readRepeatCount f closing = none := rfl

def boundsFrom (lo : Nat) : List Char → Option (Nat × Option Nat × List Char) :=
  onHead '\x7d' (fun rest => some (lo, some lo, rest)) <|
    onHead ',' (fun rest =>
      onHead '\x7d' (fun rest => some (lo, none, rest)) (fun cs =>
        (readRepeatCount f cs).bind fun r =>
          onHead '\x7d' (fun rest => if lo ≤ r.1 then some (lo, some r.1, rest) else none)
            (fun _ => none) r.2) (skip f rest)) fun _ => none

theorem local_boundsFrom (lo : Nat) : Local (boundsFrom f lo) := by
  have hlast := (local_readRepeatCount f).bind
    (h := fun hi => onHead '\x7d' (fun rest => if lo ≤ hi then some (lo, some hi, rest) else none)
      fun _ => none)
    fun hi => .onHead (by decide) (.ite (.done₂ lo (some hi)) .none) .none
  exact .onHead (by decide) (.done₂ lo (some lo))
    (.onHead (by decide) (Local.skip f (.onHead (by decide) (.done₂ lo none) hlast)) .none)

theorem readBounds_eq (cs : List Char) :
    readBounds f cs = (readRepeatCount f (skip f cs)).bind fun r => boundsFrom f r.1 r.2 := by
  unfold readBounds boundsFrom
  cases readRepeatCount f (skip f cs) with
  | none => rfl
  | some r =>
    simp only [bind, Option.bind_some]
    split
    · next h => rw [h, onHead_self]
    · next rest h =>
      rw [h, onHead_ne _ _ (by simp), onHead_self]
      split
      · next hrest => rw [hrest, onHead_self]
      · next hrest =>
        rw [onHead_ne _ _ hrest]
        refine congrArg (Option.bind _) (funext fun r => ?_)
        split
        · next hr => rw [hr, onHead_self]
        · next hr => rw [onHead_ne _ _ hr]
    · next hbrace hcomma => rw [onHead_ne _ _ hbrace, onHead_ne _ _ hcomma]

theorem local_readBounds : Local (readBounds f) :=
  (Local.skip f ((local_readRepeatCount f).bind (h := boundsFrom f) (local_boundsFrom f))).congr
    (readBounds_eq f)

theorem readBounds_eq_none {cs : List Char} (h : skip f cs = closing) : readBounds f cs = none := by
  rw [readBounds_eq, h, readRepeatCount_closing]
  rfl

/-! ### Escapes -/

theorem local_readHex (count : Nat) : Local (readHex f count) := by
  have hbraces := (local_inBraces_skip f).bind
    (h := fun ds rest => if ds.isEmpty || !ds.all isHexDigit then none
      else (charOf? (hexValue ds)).map fun c => (Primitive.literal c false, skip f rest))
    fun ds => .ite .none (Local.skip f (.ofOption _ fun c => Primitive.literal c false))
  have hdigits := (local_takeSpaced f isHexDigit (by decide) count).bind
    (h := fun ds rest => if ds.length = count then
        (charOf? (hexValue ds)).map fun c => (Primitive.literal c (count = 2), rest)
      else none)
    fun ds => .ite (.ofOption _ fun c => Primitive.literal c (count = 2)) .none
  refine (Local.skip f (Local.onHead (c := '\x7b') (by decide) hbraces hdigits)).congr fun cs => ?_
  unfold readHex
  split
  · next inner h =>
    rw [h, onHead_self]
    unfold inBraces
    rcases takeSpaced f _ inner.length (skip f inner) with ⟨ds, _ | ⟨d, rest⟩⟩ <;> rfl
  · next h =>
    rw [onHead_ne _ _ h]
    rfl

def property? (negated : Bool) (name : List Char) : Option CodeSet :=
  if f.unicode then
    (propertyClass? name).bind fun (s, inverse) => finishSet f (negated != inverse) s
  else none

theorem local_readProperty (negated : Bool) : Local (readProperty f negated) := by
  have hbraces := (local_inBraces_skip f).bind
    (h := fun name rest => (property? f negated name).map fun s => (Primitive.set s, rest))
    fun name => .ofOption _ Primitive.set
  have hletter : Local fun cs : List Char => cs.head?.bind fun c =>
      (property? f negated [c]).map fun s => (Primitive.set s, skip f cs.tail) :=
    .byHead rfl fun c => Local.skip f (.ofOption _ Primitive.set)
  refine (Local.skip f (Local.onHead (c := '\x7b') (by decide) hbraces
    (Local.onHead (c := '\\') (by decide) .none hletter))).congr fun cs => ?_
  have hfinish : ∀ name (rest : List Char), (if f.unicode then
      (propertyClass? name).bind fun p =>
        (finishSet f (negated != p.2) p.1).map fun s => (Primitive.set s, rest)
      else none) = (property? f negated name).map fun s => (Primitive.set s, rest) := by
    intro name rest
    unfold property?
    split
    · cases propertyClass? name <;> rfl
    · rfl
  unfold readProperty
  simp only [hfinish]
  split
  · next h => rw [h]; rfl
  · next inner h =>
    rw [h, onHead_self]
    unfold inBraces
    rcases takeSpaced f _ inner.length (skip f inner) with ⟨ds, _ | ⟨d, rest⟩⟩ <;> rfl
  · next rest h =>
    rw [h, onHead_ne _ _ (by simp), onHead_self]
  · next c rest hbrace hslash h =>
    rw [h, onHead_ne _ _ fun _ h => hbrace (List.cons.inj h).1,
      onHead_ne _ _ fun _ h => hslash (List.cons.inj h).1]
    rfl

theorem local_readLetterClass (c : Char) : Local (readLetterClass f c) := by
  unfold readLetterClass
  cases letterClass? f.unicode (asciiLower c) with
  | none => exact .none
  | some s => exact .ofOption _ Primitive.set

/-! ### Edges of words -/

def edge? (word : List Char) : Option Look :=
  match String.ofList word with
  | "start" => some (.wordStart !f.unicode)
  | "end" => some (.wordEnd !f.unicode)
  | "start-half" => some (.wordStartHalf !f.unicode)
  | "end-half" => some (.wordEndHalf !f.unicode)
  | _ => none

def isEdgePart (c : Char) : Bool := isAsciiLetter c || c = '-'

def readEdgeName (cs : List Char) : Option (Primitive × List Char) :=
  (some (takeSpaced f isEdgePart cs.length cs)).bind fun r =>
    onHead '\x7d' (fun rest => (edge? f r.1).map fun test => (.look test, rest)) (fun _ => none) r.2

theorem local_readEdgeName : Local (readEdgeName f) :=
  (local_takeSpaced_length f isEdgePart (by decide)).bind
    (h := fun word => onHead '\x7d'
      (fun rest => (edge? f word).map fun test => (Primitive.look test, rest)) fun _ => none)
    fun word => .onHead (by decide) (.ofOption _ Primitive.look) .none

theorem readWordEdge_brace (inner : List Char) :
    readWordEdge f ('\x7b' :: inner) =
      match (skip f inner).head? with
      | none => none
      | some c =>
        if isEdgePart c then readEdgeName f (skip f inner)
        else some (.look (.wordEdge !f.unicode), '\x7b' :: inner) := by
  unfold readWordEdge
  simp only
  cases h : skip f inner with
  | nil => rfl
  | cons c w =>
    unfold readEdgeName edge? isEdgePart
    simp only [List.head?_cons, Option.bind_some]
    by_cases hc : isAsciiLetter c || c = '-'
    · simp only [hc, if_true, Bool.not_true, Bool.false_eq_true, if_false]
      rcases takeSpaced f _ (c :: w).length (c :: w) with ⟨word, _ | ⟨d, rest⟩⟩
      · rfl
      · by_cases hd : d = '\x7d'
        · subst hd
          rfl
        · rw [onHead_cons, if_neg hd]
          simp [hd]
    · simp [hc]

/-- Nothing is read of the text alone, and with the closing behind it a brace is left that does not
begin the bounds of a repetition. -/
def Loose {α : Type} (a : α) (x y : Option (α × List Char)) : Prop :=
  x = none ∧ ∃ s, y = some (a, '\x7b' :: s) ∧ readBounds f s = none

theorem readWordEdge_plain {cs : List Char} (h : ∀ inner, cs = '\x7b' :: inner → False) :
    readWordEdge f cs = some (.look (.wordEdge !f.unicode), cs) := by
  unfold readWordEdge
  split
  · next inner => exact (h inner rfl).elim
  · rfl

theorem leaves_readWordEdge (cs : List Char) : Leaves cs (readWordEdge f cs) := by
  by_cases h : ∃ inner, cs = '\x7b' :: inner
  · obtain ⟨inner, rfl⟩ := h
    rw [readWordEdge_brace]
    split
    · exact .none _
    · split
      · exact ((local_readEdgeName f).leaves _).mono
          ((skip_suffix f inner).trans (List.suffix_cons _ inner))
      · exact .some List.suffix_rfl
  · rw [readWordEdge_plain f fun inner hinner => h ⟨inner, hinner⟩]
    exact .some List.suffix_rfl

theorem alike_readWordEdge (cs : List Char) :
    Alike cs (readWordEdge f cs) (readWordEdge f (cs ++ closing)) ∨
      ∃ test, Loose f (.look test) (readWordEdge f cs) (readWordEdge f (cs ++ closing)) := by
  by_cases h : ∃ inner, cs = '\x7b' :: inner
  · obtain ⟨inner, rfl⟩ := h
    rw [List.cons_append, readWordEdge_brace, readWordEdge_brace]
    rcases skip_append f inner with hskip | ⟨hcomment, hskip⟩
    · rw [hskip]
      cases hw : skip f inner with
      | nil =>
        -- the closing parenthesis is no part of a name, so the brace is left
        refine .inr ⟨.wordEdge !f.unicode, rfl, inner ++ closing, rfl, readBounds_eq_none f ?_⟩
        rw [hskip, hw]
        rfl
      | cons c w =>
        simp only [List.cons_append, List.head?_cons]
        split
        · have hsuffix := (hw ▸ skip_suffix f inner).trans (List.suffix_cons '\x7b' inner)
          exact .inl (((local_readEdgeName f).alike (c :: w)).mono hsuffix)
        · exact .inl (.inl rfl)
    · rw [hskip]
      exact .inl (.inr ⟨fun _ => List.mem_cons_of_mem _ hcomment, .none _⟩)
  · have hplain : ∀ inner, cs ++ closing = '\x7b' :: inner → False := by
      intro inner hinner
      cases cs with
      | nil => cases hinner
      | cons c cs => exact h ⟨cs, congrArg (· :: cs) (List.cons.inj hinner).1⟩
    rw [readWordEdge_plain f fun inner hinner => h ⟨inner, hinner⟩, readWordEdge_plain f hplain]
    exact .inl (.inl rfl)

/-! ### Escapes -/

theorem readEscape_wordEdge (cs : List Char) : readEscape f ('b' :: cs) = readWordEdge f cs := by
  simp [readEscape, show isEscapable 'b' = false by decide]

theorem local_readEscape {c : Char} (hc : c ≠ 'b') : Local fun cs => readEscape f (c :: cs) := by
  simp only [readEscape]
  refine .ite (.done _) ?_
  split
  all_goals first
    | exact local_readHex f _
    | exact local_readProperty f _
    | exact local_readLetterClass f _
    | exact .done _
    | exact absurd rfl hc

theorem leaves_readEscape (c : Char) (cs : List Char) : Leaves cs (readEscape f (c :: cs)) := by
  by_cases hc : c = 'b'
  · rw [hc, readEscape_wordEdge]
    exact leaves_readWordEdge f cs
  · exact (local_readEscape f hc).leaves cs

/-- An escape is read alike, or it is an edge of a word that leaves a brace. -/
theorem alike_readEscape (cs : List Char) :
    Alike cs (readEscape f cs) (readEscape f (cs ++ closing)) ∨
      ∃ test, Loose f (.look test) (readEscape f cs) (readEscape f (cs ++ closing)) := by
  cases cs with
  | nil => exact .inl (.past rfl (leaves_readEscape f ')' ['$']))
  | cons c cs =>
    by_cases hc : c = 'b'
    · rw [hc, List.cons_append, readEscape_wordEdge, readEscape_wordEdge]
      exact (alike_readWordEdge f cs).imp_left fun h => h.mono (List.suffix_cons 'b' cs)
    · exact .inl (((local_readEscape f hc).alike cs).mono (List.suffix_cons c cs))

theorem leaves_readEscape_self (cs : List Char) : Leaves cs (readEscape f cs) := by
  cases cs with
  | nil => exact .none _
  | cons c cs => exact (leaves_readEscape f c cs).mono (List.suffix_cons c cs)

theorem readPrimitive_escape (cs : List Char) :
    readPrimitive f ('\\' :: cs) =
      (readEscape f cs).bind fun r => (primitiveNode? f r.1).map fun n => (n, r.2) := rfl

theorem local_readPrimitive {c : Char} (hc : c ≠ '\\') :
    Local fun cs => readPrimitive f (c :: cs) := by
  by_cases hdot : c = '.'
  · subst hdot
    exact .ofOption _ Node.chars
  by_cases hstart : c = '^'
  · subst hstart
    exact .done _
  by_cases hend : c = '$'
  · subst hend
    exact .done _
  exact (Local.ofOption (primitiveNode? f (.literal c false)) id).congr fun cs => by
    simp [readPrimitive]

theorem leaves_readPrimitive (c : Char) (cs : List Char) :
    Leaves cs (readPrimitive f (c :: cs)) := by
  by_cases hc : c = '\\'
  · rw [hc, readPrimitive_escape]
    exact (leaves_readEscape_self f cs).bind fun r =>
      (Local.ofOption (primitiveNode? f r.1) id).leaves r.2
  · exact (local_readPrimitive f hc).leaves cs

theorem alike_readPrimitive (c : Char) (cs : List Char) :
    Alike cs (readPrimitive f (c :: cs)) (readPrimitive f (c :: (cs ++ closing))) ∨ ∃ node,
      Loose f node (readPrimitive f (c :: cs)) (readPrimitive f (c :: (cs ++ closing))) := by
  by_cases hc : c = '\\'
  · rw [hc, readPrimitive_escape, readPrimitive_escape]
    rcases alike_readEscape f cs with halike | ⟨test, hnone, s, hs, hbounds⟩
    · refine .inl (halike.bind (leaves_readEscape_self f cs) (fun r _ => ?_) fun r => ?_)
      · exact (Local.ofOption (primitiveNode? f r.1) id).alike r.2
      · exact (Local.ofOption (primitiveNode? f r.1) id).leaves r.2
    · refine .inr ⟨.look test, by rw [hnone]; rfl, s, by rw [hs]; rfl, hbounds⟩
  · exact .inl ((local_readPrimitive f hc).alike cs)

/-! ### Flags and names -/

theorem readFlags_cons (seen : List Char) (c : Char) (cs : List Char) :
    readFlags f seen (c :: cs) =
      if c = ':' ∨ c = ')' then
        if seen.head? = some '-' then none else some ⟨f, seen.isEmpty, c = ':', cs⟩
      else if seen.contains c then none
      else if c = '-' then readFlags f (c :: seen) cs
      else (f.set? c (!seen.contains '-')).bind fun f => readFlags f (c :: seen) cs := by
  by_cases hcolon : c = ':'
  · subst hcolon
    rfl
  · by_cases hclose : c = ')'
    · subst hclose
      rfl
    · rw [if_neg (by simp [hcolon, hclose])]
      simp [readFlags]

theorem leaves_readFlags (seen cs : List Char) : Leaves cs (readFlags f seen cs) := by
  induction cs generalizing f seen with
  | nil => exact .none _
  | cons c cs ih =>
    refine Leaves.mono ?_ (List.suffix_cons c cs)
    rw [readFlags_cons]
    split
    · split
      · exact .none cs
      · exact .some List.suffix_rfl
    · split
      · exact .none cs
      · split
        · exact ih f (c :: seen)
        · cases f.set? c (!seen.contains '-') with
          | none => exact .none cs
          | some g => exact ih g (c :: seen)

theorem local_readFlags (seen : List Char) : Local (readFlags f seen) := by
  refine ⟨leaves_readFlags f seen, fun cs => ?_⟩
  induction cs generalizing f seen with
  | nil =>
    refine .past rfl ?_
    rw [List.nil_append, closing, readFlags_cons, if_pos (.inr rfl)]
    split
    · exact .none _
    · exact .some List.suffix_rfl
  | cons c cs ih =>
    refine Alike.mono ?_ (List.suffix_cons c cs)
    rw [List.cons_append, readFlags_cons, readFlags_cons]
    split
    · split
      · exact .none cs
      · exact .inl rfl
    · split
      · exact .none cs
      · split
        · exact ih f (c :: seen)
        · cases f.set? c (!seen.contains '-') with
          | none => exact .none cs
          | some g => exact ih g (c :: seen)

theorem firm_cutFirst {sep : Char} (hsep : sep ∉ closing) : Firm (cutFirst sep) where
  leaves cs := by
    intro p hp
    rw [eq_of_cutFirst hp]
    exact (List.suffix_cons sep _).trans (List.suffix_append _ _)
  append cs := by
    cases hcut : cutFirst sep cs with
    | none =>
      rw [Option.map_none, cutFirst_eq_none_iff, List.mem_append, not_or]
      exact ⟨cutFirst_eq_none_iff.mp hcut, hsep⟩
    | some p =>
      obtain ⟨rfl, hbefore⟩ := cutFirst_eq_some_iff.mp hcut
      rw [List.append_assoc, List.cons_append, cutFirst_append hbefore]
      rfl

theorem firm_afterPrefix? {start : List Char} (hstart : ')' ∉ start) :
    Firm (afterPrefix? start) := by
  refine ⟨fun cs rest hrest => ?_, ?_⟩
  · rw [eq_of_afterPrefix? hrest]
    exact List.suffix_append start rest
  · induction start with
    | nil => exact fun _ => rfl
    | cons p start ih =>
      rw [List.mem_cons, not_or] at hstart
      intro cs
      cases cs with
      | nil =>
        have hp : ¬ p = ')' := Ne.symm hstart.1
        simp [closing, afterPrefix?, hp]
      | cons c cs =>
        rw [List.cons_append, afterPrefix?, afterPrefix?]
        split
        · exact ih hstart.2 cs
        · rfl

theorem firm_afterNameOpening? : Firm afterNameOpening? := by
  have hlong : Firm (afterPrefix? "?P<".toList) := firm_afterPrefix? (by decide)
  have hshort : Firm (afterPrefix? "?<".toList) := firm_afterPrefix? (by decide)
  unfold afterNameOpening?
  refine ⟨fun cs rest hrest => ?_, fun cs => ?_⟩
  · rw [Option.orElse_eq_orElse, Option.orElse_eq_or] at hrest
    rcases Option.or_eq_some_iff.mp hrest with h | ⟨-, h⟩
    · exact hlong.leaves cs rest h
    · exact hshort.leaves cs rest h
  · rw [hlong.append, hshort.append]
    cases afterPrefix? "?P<".toList cs <;> rfl

theorem isAround_closing (cs : List Char) : isAround (cs ++ closing) = isAround cs := by
  unfold isAround
  simp only [List.any_cons, List.any_nil]
  rw [(firm_afterPrefix? (by decide)).append, (firm_afterPrefix? (by decide)).append,
    (firm_afterPrefix? (by decide)).append, (firm_afterPrefix? (by decide)).append]
  simp only [Option.isSome_map]

def groupName? (name rest : List Char) : Option (List Char × List Char) :=
  match name with
  | [] => none
  | c :: name =>
    if (c = '_' || isAlphabetic c) && name.all fun c =>
        c = '_' || c = '.' || c = '[' || c = ']' || isAlphanumeric c then
      some (c :: name, rest)
    else none

theorem readGroupName_eq (cs : List Char) :
    readGroupName cs = (cutFirst '>' cs).bind fun r => groupName? r.1 r.2 := by
  unfold readGroupName groupName?
  rcases cutFirst '>' cs with _ | ⟨_ | ⟨c, name⟩, rest⟩ <;> rfl

theorem local_readGroupName : Local readGroupName := by
  have hname : ∀ name, Local (groupName? name) := by
    intro name
    cases name with
    | nil => exact .none
    | cons c name => exact .ite (.done _) .none
  exact ((firm_cutFirst (by decide)).local.bind hname).congr readGroupName_eq

theorem repeated_eq (lo : Nat) (hi : Option Nat) (i : Item) (items : List Item) (cs : List Char) :
    repeated f lo hi (i :: items) cs =
      if i.repeatable then
        onHead '?' (fun cs => some (⟨.times lo hi (true == f.swapGreed) i.node, i.depth + 1, true⟩
            :: items, cs))
          (fun cs => some (⟨.times lo hi (false == f.swapGreed) i.node, i.depth + 1, true⟩
            :: items, cs)) cs
      else none := by
  unfold repeated
  rcases cs with _ | ⟨c, cs⟩
  · rfl
  · by_cases hc : c = '?'
    · subst hc
      rfl
    · rw [onHead_cons, if_neg hc]
      simp [hc]

theorem local_repeated (lo : Nat) (hi : Option Nat) (items : List Item) :
    Local (repeated f lo hi items) := by
  cases items with
  | nil => exact .none
  | cons i items =>
    exact (Local.ite (.onHead (by decide) (.done _) (.done _)) .none).congr
      (repeated_eq f lo hi i items)

end InfoModel.Pattern

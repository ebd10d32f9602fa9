import InfoModel.Proofs.Pattern.Primitive

/-!
# Sets in brackets

A set in brackets is read alike in a pattern and in the enclosed pattern. Main statement:
`local_readSets`.
-/

namespace InfoModel.Pattern
open InfoModel.Text InfoModel.Unicode
open Remainder (rest followedBy)

variable (f : Flags)

/-! ### Items -/

theorem readSetPrimitive_escape (cs : List Char) :
    readSetPrimitive f ('\\' :: cs) = readEscape f cs := rfl

theorem readSetPrimitive_literal {c : Char} (hc : c ≠ '\\') (cs : List Char) :
    readSetPrimitive f (c :: cs) = some (.literal c false, cs) := by
  simp [readSetPrimitive]

theorem leaves_readSetPrimitive (c : Char) (cs : List Char) :
    Leaves cs (readSetPrimitive f (c :: cs)) := by
  by_cases hc : c = '\\'
  · rw [hc, readSetPrimitive_escape]
    exact leaves_readEscape_self f cs
  · rw [readSetPrimitive_literal f hc]
    exact .some List.suffix_rfl

theorem leaves_readSetPrimitive_self (cs : List Char) : Leaves cs (readSetPrimitive f cs) := by
  cases cs with
  | nil => exact .none _
  | cons c cs => exact (leaves_readSetPrimitive f c cs).mono (List.suffix_cons c cs)

theorem alike_readSetPrimitive (cs : List Char) :
    Alike cs (readSetPrimitive f cs) (readSetPrimitive f (cs ++ closing)) ∨ ∃ test,
      Loose f (.look test) (readSetPrimitive f cs) (readSetPrimitive f (cs ++ closing)) := by
  cases cs with
  | nil => exact .inl (.past rfl (leaves_readSetPrimitive f ')' ['$']))
  | cons c cs =>
    rw [List.cons_append]
    by_cases hc : c = '\\'
    · rw [hc, readSetPrimitive_escape, readSetPrimitive_escape]
      exact (alike_readEscape f cs).imp_left fun h => h.mono (List.suffix_cons _ cs)
    · rw [readSetPrimitive_literal f hc, readSetPrimitive_literal f hc]
      exact .inl (.inl rfl)

def rangeTo (lo : Option Nat) (last : Primitive) (cs : List Char) : Option (CodeSet × List Char) :=
  lo.bind fun lo => (literalCode? f last).bind fun hi =>
    if lo ≤ hi then some (⟨[(lo, hi)]⟩, cs) else none

theorem local_rangeTo (lo : Option Nat) (last : Primitive) : Local (rangeTo f lo last) := by
  unfold rangeTo
  cases lo with
  | none => exact .none
  | some lo =>
    cases literalCode? f last with
    | none => exact .none
    | some hi => exact .ite (.done _) .none

/-- Whether a hyphen is no range if this stands behind it. -/
def endsItem : List Char → Bool
  | [] => false
  | c :: _ => c = ']' || c = '-'

theorem endsItem_iff (cs : List Char) :
    endsItem cs = true ↔ cs.head? = some ']' ∨ cs.head? = some '-' := by
  cases cs with
  | nil => simp [endsItem]
  | cons c cs => simp [endsItem]

/-- What is read of an item behind its first part and the gap after that. -/
def itemFrom (first : Primitive) : List Char → Option (CodeSet × List Char)
  | [] => none
  | c :: cs =>
    if c = '-' && !endsItem (skip f cs) then
      (readSetPrimitive f (skip f cs)).bind fun r => rangeTo f (literalCode? f first) r.1 r.2
    else (primitiveSet? f first).map fun s => (s, c :: cs)

theorem itemFrom_cons (first : Primitive) (c : Char) (cs : List Char) :
    itemFrom f first (c :: cs) =
      if c = '-' && !endsItem (skip f cs) then
        (readSetPrimitive f (skip f cs)).bind fun r => rangeTo f (literalCode? f first) r.1 r.2
      else (primitiveSet? f first).map fun s => (s, c :: cs) := rfl

theorem readSetItem_eq (cs : List Char) :
    readSetItem f cs = (readSetPrimitive f cs).bind fun r => itemFrom f r.1 (skip f r.2) := by
  have hpure : ∀ {o : Option CodeSet} {cs : List Char},
      (o >>= fun s => pure (s, cs)) = o.map fun s => (s, cs) := fun {o} _ => by cases o <;> rfl
  unfold readSetItem
  refine congrArg (Option.bind _) (funext fun r => ?_)
  simp only [hpure, ← endsItem_iff]
  split
  · next h => rw [h]; rfl
  · next more h =>
    rw [h, itemFrom_cons]
    cases endsItem (skip f more) with
    | true => rfl
    | false => rfl
  · next hnil hdash =>
    cases h : skip f r.2 with
    | nil => exact (hnil h).elim
    | cons c cs =>
      have hc : c ≠ '-' := fun hc => hdash cs (by rw [h, hc])
      rw [itemFrom_cons, if_neg (by simp [hc])]

theorem leaves_itemFrom (first : Primitive) (cs : List Char) : Leaves cs (itemFrom f first cs) := by
  cases cs with
  | nil => exact .none _
  | cons c cs =>
    rw [itemFrom_cons]
    split
    · refine Leaves.mono ?_ ((skip_suffix f cs).trans (List.suffix_cons c cs))
      exact (leaves_readSetPrimitive_self f _).bind fun r => (local_rangeTo f _ r.1).leaves r.2
    · exact (Local.ofOption (primitiveSet? f first) id).leaves (c :: cs)

theorem leaves_readSetItem (c : Char) (cs : List Char) : Leaves cs (readSetItem f (c :: cs)) := by
  rw [readSetItem_eq]
  exact (leaves_readSetPrimitive f c cs).bind fun r =>
    (leaves_itemFrom f r.1 _).mono (skip_suffix f r.2)

theorem leaves_readSetItem_self (cs : List Char) : Leaves cs (readSetItem f cs) := by
  cases cs with
  | nil => exact .none _
  | cons c cs => exact (leaves_readSetItem f c cs).mono (List.suffix_cons c cs)

/-- An item is read alike, or no item is read of the text alone for want of a character behind its
first part, which may be the closing parenthesis. -/
def NearlyAlike (cs : List Char) (x y : Option (CodeSet × List Char)) : Prop :=
  y = x.map (followedBy closing) ∨ (x.isSome → '#' ∈ cs) ∧ Leaves closing y

theorem NearlyAlike.of_alike {cs cs' : List Char} {x y : Option (CodeSet × List Char)}
    (h : Alike cs x y) (hcs : cs <:+ cs') : NearlyAlike cs' x y := by
  rcases h with heq | ⟨hsome, hpast⟩
  · exact .inl heq
  · exact .inr ⟨fun h => hcs.subset (hsome h), hpast.mono (List.suffix_cons _ _)⟩

theorem rangeTo_look (lo : Option Nat) (test : Look) (cs : List Char) :
    rangeTo f lo (.look test) cs = none := by
  cases lo <;> rfl

theorem alike_range (first : Primitive) (cs : List Char) :
    Alike cs ((readSetPrimitive f cs).bind fun r => rangeTo f (literalCode? f first) r.1 r.2)
      ((readSetPrimitive f (cs ++ closing)).bind fun r =>
        rangeTo f (literalCode? f first) r.1 r.2) := by
  rcases alike_readSetPrimitive f cs with halike | ⟨test, hnone, s, hs, -⟩
  · exact halike.bind (leaves_readSetPrimitive_self f cs)
      (fun r _ => (local_rangeTo f _ r.1).alike r.2) fun r => (local_rangeTo f _ r.1).leaves r.2
  · rw [hnone, hs]
    exact .inl (rangeTo_look f _ test _)

theorem nearlyAlike_itemFrom (first : Primitive) (cs : List Char) :
    NearlyAlike cs (itemFrom f first cs) (itemFrom f first (cs ++ closing)) := by
  cases cs with
  | nil => exact .inr ⟨fun h => absurd h Bool.false_ne_true, leaves_itemFrom f first closing⟩
  | cons c cs =>
    rw [List.cons_append, itemFrom_cons, itemFrom_cons]
    have halone : Alike (c :: cs) ((primitiveSet? f first).map fun s => (s, c :: cs))
        ((primitiveSet? f first).map fun s => (s, c :: (cs ++ closing))) :=
      (Local.ofOption (primitiveSet? f first) id).alike (c :: cs)
    have hrange := (alike_range f first (skip f cs)).mono
      ((skip_suffix f cs).trans (List.suffix_cons c cs))
    by_cases hc : c = '-'
    · simp only [hc, decide_true, Bool.true_and] at halone hrange ⊢
      rcases skip_append f cs with hskip | ⟨hcomment, hskip⟩
      · have hends : endsItem (skip f cs ++ closing) = endsItem (skip f cs) := by
          cases skip f cs <;> rfl
        rw [hskip, hends]
        split
        · exact .of_alike hrange List.suffix_rfl
        · exact .of_alike halone List.suffix_rfl
      · rw [hskip]
        exact .inr ⟨fun _ => List.mem_cons_of_mem _ hcomment, .none _⟩
    · simp only [hc, decide_false, Bool.false_and]
      exact .of_alike halone List.suffix_rfl

theorem NearlyAlike.mono {cs cs' : List Char} {x y : Option (CodeSet × List Char)}
    (h : NearlyAlike cs x y) (hcs : cs <:+ cs') : NearlyAlike cs' x y := by
  rcases h with heq | ⟨hsome, hpast⟩
  · exact .inl heq
  · exact .inr ⟨fun h => hcs.subset (hsome h), hpast⟩

theorem nearlyAlike_readSetItem (cs : List Char) :
    NearlyAlike cs (readSetItem f cs) (readSetItem f (cs ++ closing)) := by
  rw [readSetItem_eq, readSetItem_eq]
  rcases alike_readSetPrimitive f cs with (heq | ⟨hsome, hpast⟩) | ⟨test, hnone, s, hs, -⟩
  · rw [heq]
    cases hfirst : readSetPrimitive f cs with
    | none => exact .inl rfl
    | some r =>
      have hsuffix := leaves_readSetPrimitive_self f cs r hfirst
      have hitem := (nearlyAlike_itemFrom f r.1 (skip f r.2)).mono
        ((skip_suffix f r.2).trans hsuffix)
      show NearlyAlike cs (itemFrom f r.1 (skip f r.2)) (itemFrom f r.1 (skip f (r.2 ++ closing)))
      rcases skip_append f r.2 with hskip | ⟨hcomment, hskip⟩
      · rwa [hskip]
      · rw [hskip]
        exact .inr ⟨fun _ => hsuffix.subset hcomment, .none _⟩
  · refine .inr ⟨fun h => hsome ?_, Leaves.mono ?_ (List.suffix_cons ')' _)⟩
    · exact Option.isSome_of_isSome_bind h
    · exact hpast.bind fun r => (leaves_itemFrom f r.1 _).mono (skip_suffix f r.2)
  · -- an edge of a word is no item of a set
    rw [hnone, hs]
    have hskip : skip f ('\x7b' :: s) = '\x7b' :: s := by
      unfold skip
      split <;> rfl
    refine .inl ?_
    simp only [Option.bind_some, Option.bind_none, Option.map_none]
    rw [hskip]
    rfl

/-! ### Classes with a name -/

def namedClass (negated : Bool) (cs : List Char) : Option (CodeSet × List Char) :=
  (cutFirst ':' cs).bind fun r => (afterPrefix? [']'] r.2).bind fun rest =>
    ((asciiClass? (String.ofList r.1)).bind (finishSet f negated)).map fun s => (s, rest)

theorem readAsciiClass_eq (cs : List Char) :
    readAsciiClass f ('[' :: cs) = (afterPrefix? [':'] cs).bind
      (onHead '^' (namedClass f true) (namedClass f false)) := by
  refine congrArg (Option.bind _) (funext fun inner => ?_)
  have hclass : ∀ negated name (rest : List Char),
      ((asciiClass? name).bind fun s => (finishSet f negated s).bind fun s => some (s, rest)) =
        ((asciiClass? name).bind (finishSet f negated)).map fun s => (s, rest) := by
    intro negated name rest
    cases hname : asciiClass? name with
    | none => rfl
    | some s => cases hs : finishSet f negated s <;> simp [hs]
  unfold namedClass
  simp only [← hclass]
  rcases inner with _ | ⟨c, inner⟩
  · rfl
  · by_cases hc : c = '^'
    · subst hc
      rfl
    · rw [onHead_cons, if_neg hc]
      simp [hc]

theorem firm_namedClass (negated : Bool) : Firm (namedClass f negated) := by
  have hbracket : ∀ name, Firm fun cs => (afterPrefix? [']'] cs).bind fun rest =>
      ((asciiClass? (String.ofList name)).bind (finishSet f negated)).map fun s => (s, rest) :=
    fun name => (firm_afterPrefix? (by decide)).andThen (Firm.ofOption _ id).leaves
      (Firm.ofOption _ id).append
  exact (firm_cutFirst (by decide)).andThen (fun r => (hbracket r.1).leaves r.2)
    fun r => (hbracket r.1).append r.2

theorem firm_readAsciiClass : Firm fun cs => readAsciiClass f ('[' :: cs) := by
  have hclass := Firm.onHead (c := '^') (by decide) (firm_namedClass f true)
    (firm_namedClass f false)
  simp only [readAsciiClass_eq]
  exact (firm_afterPrefix? (by decide)).andThen hclass.leaves hclass.append

theorem isAsciiClass_closing (cs : List Char) :
    isAsciiClass ('[' :: (cs ++ closing)) = isAsciiClass ('[' :: cs) := by
  unfold isAsciiClass
  rw [(firm_readAsciiClass _).append, Option.isSome_map]

/-! ### Sets -/

theorem local_readSetStart : Local fun cs => some (readSetStart f cs) := by
  have hstart := (local_takeSpaced_length f (· = '-') (by decide)).bind
    (h := fun hyphens =>
      let start : OpenSet :=
        ⟨none, if hyphens.isEmpty then .empty else .singleton '-', hyphens.length, 0⟩
      fun cs => if hyphens.isEmpty then
        onHead ']' (fun more => some (start.add (.singleton ']') 0, skip f more))
          (fun cs => some (start, cs)) cs
      else some (start, cs))
    fun hyphens => .ite (.onHead (by decide) (Local.skip f (.done _)) (.done _)) (.done _)
  refine hstart.congr fun cs => ?_
  unfold readSetStart
  rcases takeSpaced f (· = '-') cs.length cs with ⟨hyphens, rest⟩
  simp only [Option.bind_some]
  split
  · next more =>
    rw [onHead_self]
    split <;> rfl
  · next hbracket =>
    rw [onHead_ne _ _ hbracket, ite_self]

def setFrom (fuel : Nat) (negated : Bool) (cs : List Char) : Option (CodeSet × Nat × List Char) :=
  (some (readSetStart f cs)).bind fun start => (readSetItems f fuel start.1 start.2).bind fun r =>
    (finishSet f negated r.1).map fun s => (s, r.2.1 + 1, r.2.2)

theorem readSet_succ (fuel : Nat) (cs : List Char) :
    readSet f (fuel + 1) cs =
      onHead '^' (fun rest => setFrom f fuel true (skip f rest)) (setFrom f fuel false)
        (skip f cs) := by
  unfold readSet setFrom
  simp only [Option.bind_some]
  generalize skip f cs = cs
  rcases cs with _ | ⟨c, cs⟩
  · unfold onHead
    dsimp only
    cases readSetItems f fuel (readSetStart f []).1 (readSetStart f []).2 <;> rfl
  · rw [onHead_cons]
    by_cases hc : c = '^'
    · subst hc
      rw [if_pos rfl]
      simp only
      generalize skip f cs = cs
      cases readSetItems f fuel (readSetStart f cs).1 (readSetStart f cs).2 <;> rfl
    · rw [if_neg hc]
      simp only [List.cons.injEq, hc, false_and, imp_self, implies_true]
      cases readSetItems f fuel (readSetStart f (c :: cs)).1 (readSetStart f (c :: cs)).2 <;> rfl

def itemsFrom (fuel : Nat) (o : OpenSet) : List Char → Option (CodeSet × Nat × List Char) :=
  onHead ']' (fun rest => some ((o.total f).1, (o.total f).2, rest)) <|
    onPair '&' (readSetItems f fuel (o.operate f .intersection)) <|
    onPair '-' (readSetItems f fuel (o.operate f .difference)) <|
    onPair '~' (readSetItems f fuel (o.operate f .symmetricDifference)) <|
    onHead '[' (fun rest =>
      if isAsciiClass ('[' :: rest) then
        (readAsciiClass f ('[' :: rest)).bind fun r => readSetItems f fuel (o.add r.1 0) r.2
      else (readSet f fuel rest).bind fun r => readSetItems f fuel (o.add r.1 r.2.1) r.2.2)
    fun cs => (readSetItem f cs).bind fun r => readSetItems f fuel (o.add r.1 0) r.2

theorem readSetItems_succ (fuel : Nat) (o : OpenSet) (cs : List Char) :
    readSetItems f (fuel + 1) o cs = itemsFrom f fuel o (skip f cs) := by
  unfold readSetItems itemsFrom
  simp only
  split
  · next h => rw [h]; rfl
  · next rest h => rw [h]; rfl
  · next rest h => rw [h]; rfl
  · next rest h => rw [h]; rfl
  · next rest h => rw [h]; rfl
  · next rest h =>
    rw [h, onHead_ne _ _ (by simp), onPair_ne _ _ (by simp), onPair_ne _ _ (by simp),
      onPair_ne _ _ (by simp), onHead_self]
    split
    · cases readAsciiClass f ('[' :: rest) <;> rfl
    · cases readSet f fuel rest <;> rfl
  · next hnil hclose hand hminus htilde hopen =>
    rw [onHead_ne _ _ hclose, onPair_ne _ _ hand, onPair_ne _ _ hminus, onPair_ne _ _ htilde,
      onHead_ne _ _ hopen]
    cases readSetItem f (skip f cs) <;> rfl

theorem readSetItems_nil (fuel : Nat) (o : OpenSet) : readSetItems f fuel o [] = none := by
  cases fuel with
  | zero => rfl
  | succ fuel =>
    have hskip : skip f [] = [] := List.suffix_nil.mp (skip_suffix f [])
    rw [readSetItems_succ, hskip]
    rfl

theorem local_itemThen {fuel : Nat} (ih : ∀ o, Local (readSetItems f fuel o)) (o : OpenSet) :
    Local fun cs => (readSetItem f cs).bind fun r => readSetItems f fuel (o.add r.1 0) r.2 := by
  have hleaves : ∀ cs, Leaves cs
      ((readSetItem f cs).bind fun r => readSetItems f fuel (o.add r.1 0) r.2) := fun cs =>
    (leaves_readSetItem_self f cs).bind fun r => (ih _).leaves r.2
  refine ⟨hleaves, fun cs => ?_⟩
  rcases nearlyAlike_readSetItem f cs with heq | ⟨hsome, hpast⟩
  · rw [heq]
    cases hitem : readSetItem f cs with
    | none => exact .none cs
    | some r => exact ((ih _).alike r.2).mono (leaves_readSetItem_self f cs r hitem)
  · refine .inr ⟨fun h => hsome (Option.isSome_of_isSome_bind h), ?_⟩
    intro s hs
    obtain ⟨r, hr, hs⟩ := Option.bind_eq_some_iff.mp hs
    rcases List.suffix_cons_iff.mp (hpast r hr) with hrest | hrest
    · -- nothing closes a set before the parenthesis, so that is an item of the set
      have halike := (ih (o.add r.1 0)).alike []
      rw [readSetItems_nil] at halike
      rw [show r.2 = closing from hrest] at hs
      rcases halike with hnone | ⟨-, hpast⟩
      · rw [List.nil_append, hs] at hnone
        cases hnone
      · exact hpast s hs
    · exact ((ih _).leaves r.2 s hs).trans hrest

theorem local_readSets (fuel : Nat) :
    Local (readSet f fuel) ∧ ∀ o, Local (readSetItems f fuel o) := by
  induction fuel with
  | zero => exact ⟨.none, fun _ => .none⟩
  | succ fuel ih =>
    obtain ⟨hset, hitems⟩ := ih
    have hfrom : ∀ negated, Local (setFrom f fuel negated) := by
      intro negated
      have hfinish := fun start => (hitems start).bind₂
        (h := fun s depth cs => (finishSet f negated s).map fun s => (s, depth + 1, cs))
        fun s depth => .ofOption₂ _ (depth + 1)
      exact (local_readSetStart f).bind hfinish
    constructor
    · exact (Local.skip f (.onHead (by decide) (Local.skip f (hfrom true)) (hfrom false))).congr
        (readSet_succ f fuel)
    · intro o
      refine (Local.skip f ?_).congr (readSetItems_succ f fuel o)
      have hnested := hset.bind₂ fun s depth => hitems (o.add s depth)
      have hclass := (firm_readAsciiClass f).local.bind fun s => hitems (o.add s 0)
      exact .onHead (by decide) (.done₂ _ _) (.onPair (by decide) (hitems _)
        (.onPair (by decide) (hitems _) (.onPair (by decide) (hitems _)
          (.onHead (by decide) (.cond isAsciiClass_closing hclass hnested)
            (local_itemThen f hitems o)))))

/-! ### Enough parts to enter -/

section
variable {f : Flags} {k l : Nat}

theorem itemsFrom_congr {cs : List Char}
    (hset : ∀ rest, rest.length < cs.length → readSet f k rest = readSet f l rest)
    (hitems : ∀ o rest, rest.length < cs.length → readSetItems f k o rest = readSetItems f l o rest)
    (o : OpenSet) : itemsFrom f k o cs = itemsFrom f l o cs := by
  unfold itemsFrom
  refine onHead_congr (fun _ _ => rfl) <| onPair_congr (hitems _) <| onPair_congr (hitems _) <|
    onPair_congr (hitems _) <| onHead_congr (fun rest hrest => ?_) ?_
  · have hclass := ((firm_readAsciiClass f).leaves rest).bind_congr
      fun r hr => hitems (o.add r.1 0) r.2 (Nat.lt_of_le_of_lt hr hrest)
    have hnested := ((local_readSets f l).1.leaves rest).bind_congr
      fun r hr => hitems (o.add r.1 r.2.1) r.2.2 (Nat.lt_of_le_of_lt hr hrest)
    rw [hset rest hrest, hclass, hnested]
  · cases cs with
    | nil => rfl
    | cons c cs =>
      exact (leaves_readSetItem f c cs).bind_congr
        fun r hr => hitems (o.add r.1 0) r.2 (Nat.lt_succ_of_le hr)

/-- How many parts may be entered makes no difference once it is twice the length of the text. -/
theorem readSets_enough (k : Nat) :
    (∀ l cs, 2 * List.length cs + 2 ≤ k → 2 * List.length cs + 2 ≤ l →
      readSet f k cs = readSet f l cs) ∧
    ∀ l o cs, 2 * List.length cs + 1 ≤ k → 2 * List.length cs + 1 ≤ l →
      readSetItems f k o cs = readSetItems f l o cs := by
  induction k with
  | zero => exact ⟨fun l cs hk => by omega, fun l o cs hk => by omega⟩
  | succ k ih =>
    obtain ⟨hset, hitems⟩ := ih
    refine ⟨fun l cs hk hl => ?_, fun l o cs hk hl => ?_⟩
    · obtain ⟨l, rfl⟩ := Nat.exists_eq_add_one_of_ne_zero (show l ≠ 0 by omega)
      have hfrom : ∀ negated rest, rest.length ≤ cs.length →
          setFrom f k negated rest = setFrom f l negated rest := by
        intro negated rest hrest
        refine ((local_readSetStart f).leaves rest).bind_congr fun start hstart => ?_
        have hstart : start.2.length ≤ rest.length := hstart
        rw [hitems l start.1 start.2 (by omega) (by omega)]
      have hskip := (skip_suffix f cs).length_le
      rw [readSet_succ, readSet_succ]
      refine onHead_congr (fun rest hrest => hfrom true _ ?_) (hfrom false _ hskip)
      have hrest' := (skip_suffix f rest).length_le
      omega
    · obtain ⟨l, rfl⟩ := Nat.exists_eq_add_one_of_ne_zero (show l ≠ 0 by omega)
      have hskip := (skip_suffix f cs).length_le
      rw [readSetItems_succ, readSetItems_succ]
      exact itemsFrom_congr (fun rest hrest => hset l rest (by omega) (by omega))
        (fun o rest hrest => hitems l o rest (by omega) (by omega)) o

end

end InfoModel.Pattern

import InfoModel.Proofs.Pattern.Bracket

/-!
# Groups and alternatives

The parts, alternatives and groups of a pattern are read alike in the pattern and in the enclosed
pattern. Main statements: `local_groups`, `groups_enough`.
-/

namespace InfoModel.Pattern
open InfoModel.Text InfoModel.Unicode
open Remainder (rest followedBy)

/-! ### Cursors -/

section
variable {α ρ : Type} [Remainder ρ]

/-- A reader that goes on from a cursor and leaves what stands behind a pattern as it is, unless it
goes past the closing parenthesis. -/
structure LocalCursor (g : Cursor → Option ρ) : Prop where
  leaves : ∀ c : Cursor, Leaves c.rest (g c)
  alike : ∀ c : Cursor, Alike c.rest (g c) (g (followedBy closing c))

theorem LocalCursor.of {g : Cursor → Option ρ}
    (hg : ∀ f groups names, Local fun cs => g ⟨cs, f, groups, names⟩) : LocalCursor g :=
  ⟨fun c => (hg c.flags c.groups c.names).leaves c.rest,
    fun c => (hg c.flags c.groups c.names).alike c.rest⟩

theorem LocalCursor.at {g : Cursor → Option ρ} (hg : LocalCursor g) (f : Flags) (groups : Nat)
    (names : List (List Char)) : Local fun cs => g ⟨cs, f, groups, names⟩ :=
  ⟨fun cs => hg.leaves ⟨cs, f, groups, names⟩, fun cs => hg.alike ⟨cs, f, groups, names⟩⟩

theorem Local.cursor (a : α) (f : Flags) (groups : Nat) (names : List (List Char)) :
    Local fun cs => some (a, (⟨cs, f, groups, names⟩ : Cursor)) :=
  ⟨fun _ => .some List.suffix_rfl, fun _ => .inl rfl⟩

theorem Local.thenCursor {g : List Char → Option (α × Cursor)} {h : α → Cursor → Option ρ}
    (hg : Local g) (hh : ∀ a, LocalCursor (h a)) :
    Local fun cs => (g cs).bind fun r => h r.1 r.2 :=
  hg.andThen (fun r => (hh r.1).leaves r.2) fun r => (hh r.1).alike r.2

end

/-! ### What is read next -/

section
variable (fuel : Nat) (f : Flags) (groups : Nat) (names : List (List Char)) (items : List Item)

def branchesFrom (items : List Item) (c : Cursor) : Option (List (Node × Nat) × Cursor) :=
  onHead '|' (fun rest => (readBranches fuel { c with rest }).bind fun r =>
      some (joinItems items :: r.1, r.2))
    (fun rest => some ([joinItems items], { c with rest })) c.rest

def endsBranch : List Char → Bool
  | [] => true
  | c :: _ => c = ')' || c = '|'

/-- The parts behind one that is read without a cursor. -/
def goOn (r : List Item × List Char) : Option (List Item × Cursor) :=
  readItems fuel r.1 ⟨r.2, f, groups, names⟩

def partsFrom : List Char → Option (List Item × Cursor) :=
  onHead '(' (fun inner => (readGroup fuel ⟨skip f inner, f, groups, names⟩).bind fun r =>
      readItems fuel (r.1 :: items) r.2) <|
    onHead '[' (fun inner => (readSet f fuel inner).bind fun r =>
      goOn fuel f groups names (⟨.chars r.1, r.2.1, true⟩ :: items, r.2.2)) <|
    onHead '?' (fun more => (repeated f 0 (some 1) items more).bind (goOn fuel f groups names)) <|
    onHead '*' (fun more => (repeated f 0 none items more).bind (goOn fuel f groups names)) <|
    onHead '+' (fun more => (repeated f 1 none items more).bind (goOn fuel f groups names)) <|
    onHead '\x7b' (fun more => (readBounds f more).bind fun b =>
      (repeated f b.1 b.2.1 items (skip f b.2.2)).bind (goOn fuel f groups names))
    fun cs => (readPrimitive f cs).bind fun r =>
      goOn fuel f groups names (⟨r.1, 0, true⟩ :: items, r.2)

/-- A group behind its flags, or the flags for the rest of the group around. -/
def flagsFrom (t : FlagText) : Option (Item × Cursor) :=
  if t.opensGroup then readBody fuel none f ⟨t.rest, t.flags, groups, names⟩
  else if t.isEmpty then none
  else some (⟨.empty, 0, false⟩, ⟨t.rest, t.flags, groups, names⟩)

/-- A group behind its opening parenthesis, if it has no name. -/
def groupFrom : List Char → Option (Item × Cursor) :=
  onHead '?' (fun rest => (readFlags f [] rest).bind (flagsFrom fuel f groups names))
    fun cs => readBody fuel (some (groups + 1)) f ⟨cs, f, groups + 1, names⟩

def namedFrom (opened : List Char) : Option (Item × Cursor) :=
  (readGroupName opened).bind fun r =>
    if names.contains r.1 then none
    else readBody fuel (some (groups + 1)) f ⟨r.2, f, groups + 1, r.1 :: names⟩

def closeFrom (index : Option Nat) (around : Flags) (branches : List (Node × Nat)) (c : Cursor) :
    Option (Item × Cursor) :=
  match c.rest with
  | ')' :: rest =>
    let body := joinBranches branches
    let node := match index with
      | some n => Node.group n body.1
      | none => body.1
    some (⟨node, body.2 + 1, true⟩, { c with rest, flags := around })
  | _ => none

theorem readBranches_succ (c : Cursor) :
    readBranches (fuel + 1) c =
      (readItems fuel [] c).bind fun r => branchesFrom fuel r.1 r.2 := by
  unfold readBranches branchesFrom
  cases readItems fuel [] c with
  | none => rfl
  | some r =>
    obtain ⟨items, c⟩ := r
    simp only [Option.bind_some]
    split
    · next rest h =>
      rw [h, onHead_self]
      cases readBranches fuel { c with rest } <;> rfl
    · next h =>
      rw [onHead_ne _ _ h]

theorem readItems_succ (items : List Item) (c : Cursor) :
    readItems (fuel + 1) items c =
      if endsBranch (skip c.flags c.rest) then
        some (items, { c with rest := skip c.flags c.rest })
      else partsFrom fuel c.flags c.groups c.names items (skip c.flags c.rest) := by
  unfold readItems partsFrom
  simp only
  split
  · next h => simp [h, endsBranch]
  · next rest h => simp [h, endsBranch]
  · next rest h => simp [h, endsBranch]
  · next inner h =>
    rw [h, if_neg (by simp [endsBranch]), onHead_self]
    cases readGroup fuel _ <;> rfl
  · next inner h =>
    rw [h, if_neg (by simp [endsBranch]), onHead_ne _ _ (by simp), onHead_self]
    cases readSet c.flags fuel inner <;> rfl
  · next more h =>
    rw [h, if_neg (by simp [endsBranch]), onHead_ne _ _ (by simp), onHead_ne _ _ (by simp),
      onHead_self]
    cases repeated c.flags 0 (some 1) items more <;> rfl
  · next more h =>
    rw [h, if_neg (by simp [endsBranch]), onHead_ne _ _ (by simp), onHead_ne _ _ (by simp),
      onHead_ne _ _ (by simp), onHead_self]
    cases repeated c.flags 0 none items more <;> rfl
  · next more h =>
    rw [h, if_neg (by simp [endsBranch]), onHead_ne _ _ (by simp), onHead_ne _ _ (by simp),
      onHead_ne _ _ (by simp), onHead_ne _ _ (by simp), onHead_self]
    cases repeated c.flags 1 none items more <;> rfl
  · next more h =>
    rw [h, if_neg (by simp [endsBranch]), onHead_ne _ _ (by simp), onHead_ne _ _ (by simp),
      onHead_ne _ _ (by simp), onHead_ne _ _ (by simp), onHead_ne _ _ (by simp), onHead_self]
    rcases readBounds c.flags more with _ | ⟨lo, hi, more⟩
    · rfl
    · simp only [Option.bind_some]
      cases repeated c.flags lo hi items (skip c.flags more) <;> rfl
  · next hnil hclose hbar hgroup hset hoptional hstar hplus hbrace =>
    have hends : ¬ endsBranch (skip c.flags c.rest) = true := by
      cases h : skip c.flags c.rest with
      | nil => exact (hnil h).elim
      | cons d cs =>
        have hd : d ≠ ')' := fun hd => hclose cs (by rw [h, hd])
        have hd' : d ≠ '|' := fun hd => hbar cs (by rw [h, hd])
        simp [endsBranch, hd, hd']
    rw [if_neg hends, onHead_ne _ _ hgroup, onHead_ne _ _ hset, onHead_ne _ _ hoptional,
      onHead_ne _ _ hstar, onHead_ne _ _ hplus, onHead_ne _ _ hbrace]
    cases readPrimitive c.flags (skip c.flags c.rest) <;> rfl

theorem readGroup_succ (c : Cursor) :
    readGroup (fuel + 1) c =
      if isAround c.rest then none
      else (afterNameOpening? c.rest).elim (groupFrom fuel c.flags c.groups c.names c.rest)
        (namedFrom fuel c.flags c.groups c.names) := by
  unfold readGroup groupFrom namedFrom
  split
  · rfl
  · cases afterNameOpening? c.rest with
    | some opened =>
      simp only [Option.elim_some]
      rcases readGroupName opened with _ | ⟨name, rest⟩ <;> rfl
    | none =>
      simp only [Option.elim_none]
      split
      · next rest h =>
        rw [h, onHead_self]
        cases readFlags c.flags [] rest <;> rfl
      · next h => rw [onHead_ne _ _ h]

theorem readBody_succ (index : Option Nat) (around : Flags) (c : Cursor) :
    readBody (fuel + 1) index around c =
      (readBranches fuel c).bind fun r => closeFrom index around r.1 r.2 := by
  unfold readBody closeFrom
  cases readBranches fuel c with
  | none => rfl
  | some r => rfl

end

/-! ### Reading alike -/

section
variable {fuel : Nat} {f : Flags} {groups : Nat} {names : List (List Char)} {items : List Item}

theorem local_branchesFrom (h : LocalCursor (readBranches fuel)) (items : List Item) :
    LocalCursor (branchesFrom fuel items) := by
  refine .of fun f groups names => ?_
  have hnext := (h.at f groups names).thenCursor
    (h := fun branches c => some (joinItems items :: branches, c))
    fun branches => .of fun f groups names => .cursor (joinItems items :: branches) f groups names
  exact .onHead (by decide) hnext (.cursor _ f groups names)

theorem skip_brace (f : Flags) (cs : List Char) : skip f ('\x7b' :: cs) = '\x7b' :: cs := by
  unfold skip
  split <;> rfl

/-- A brace that does not begin the bounds of a repetition is not read. -/
theorem readItems_brace {cs : List Char} (h : readBounds f cs = none) :
    readItems fuel items ⟨'\x7b' :: cs, f, groups, names⟩ = none := by
  cases fuel with
  | zero => rfl
  | succ fuel =>
    rw [readItems_succ]
    dsimp only
    rw [skip_brace, if_neg (by simp [endsBranch])]
    unfold partsFrom
    rw [onHead_ne _ _ (by simp), onHead_ne _ _ (by simp), onHead_ne _ _ (by simp),
      onHead_ne _ _ (by simp), onHead_ne _ _ (by simp), onHead_self, h]
    rfl

theorem local_primitiveThen (h : ∀ items, LocalCursor (readItems fuel items)) :
    Local fun cs => (readPrimitive f cs).bind fun r =>
      goOn fuel f groups names (⟨r.1, 0, true⟩ :: items, r.2) := by
  have hleaves : ∀ c cs, Leaves cs ((readPrimitive f (c :: cs)).bind fun r =>
      goOn fuel f groups names (⟨r.1, 0, true⟩ :: items, r.2)) := fun c cs =>
    (leaves_readPrimitive f c cs).bind fun r => ((h _).at f groups names).leaves r.2
  refine ⟨fun cs => ?_, fun cs => ?_⟩
  · cases cs with
    | nil => exact .none _
    | cons c cs => exact (hleaves c cs).mono (List.suffix_cons c cs)
  · cases cs with
    | nil => exact .past rfl (hleaves ')' ['$'])
    | cons c cs =>
      refine Alike.mono ?_ (List.suffix_cons c cs)
      rcases alike_readPrimitive f c cs with halike | ⟨node, hnone, s, hs, hbounds⟩
      · exact halike.bind (leaves_readPrimitive f c cs)
          (fun r _ => ((h _).at f groups names).alike r.2)
          fun r => ((h _).at f groups names).leaves r.2
      · rw [List.cons_append, hnone, hs]
        exact .inl (readItems_brace hbounds)

theorem local_partsFrom (hitems : ∀ items, LocalCursor (readItems fuel items))
    (hgroup : LocalCursor (readGroup fuel)) : Local (partsFrom fuel f groups names items) := by
  have hgo : ∀ items, Local fun cs => goOn fuel f groups names (items, cs) := fun items =>
    (hitems items).at f groups names
  have hrepeat : ∀ lo hi, Local fun more =>
      (repeated f lo hi items more).bind (goOn fuel f groups names) := fun lo hi =>
    (local_repeated f lo hi items).bind hgo
  have hinner := (Local.skip f (hgroup.at f groups names)).thenCursor
    (h := fun i => readItems fuel (i :: items)) fun i => hitems (i :: items)
  have hset := (local_readSets f fuel).1.bind₂
    (h := fun s depth cs => goOn fuel f groups names (⟨.chars s, depth, true⟩ :: items, cs))
    fun s depth => hgo _
  have hbounds := (local_readBounds f).bind₂
    (h := fun lo hi more => (repeated f lo hi items (skip f more)).bind (goOn fuel f groups names))
    fun lo hi => Local.skip f (hrepeat lo hi)
  exact .onHead (by decide) hinner (.onHead (by decide) hset
    (.onHead (by decide) (hrepeat 0 (some 1)) (.onHead (by decide) (hrepeat 0 none)
      (.onHead (by decide) (hrepeat 1 none) (.onHead (by decide) hbounds
        (local_primitiveThen hitems))))))

theorem endsBranch_closing (cs : List Char) : endsBranch (cs ++ closing) = endsBranch cs := by
  cases cs <;> rfl

theorem local_groupFrom (hbody : ∀ index around, LocalCursor (readBody fuel index around)) :
    Local (groupFrom fuel f groups names) := by
  have hflags : ∀ t : FlagText, Local fun cs =>
      flagsFrom fuel f groups names { t with rest := cs } := fun t =>
    .ite (p := t.opensGroup = true) ((hbody none f).at t.flags groups names)
      (.ite (p := t.isEmpty = true) .none
        (.cursor (⟨.empty, 0, false⟩ : Item) t.flags groups names))
  have hread := (local_readFlags f []).andThen (h := flagsFrom fuel f groups names)
    (fun t => (hflags t).leaves t.rest) fun t => (hflags t).alike t.rest
  exact .onHead (by decide) hread ((hbody _ f).at f (groups + 1) names)

theorem local_namedFrom (hbody : ∀ index around, LocalCursor (readBody fuel index around)) :
    Local (namedFrom fuel f groups names) :=
  local_readGroupName.bind
    (h := fun name rest => if names.contains name then none
      else readBody fuel (some (groups + 1)) f ⟨rest, f, groups + 1, name :: names⟩)
    fun name => .ite .none ((hbody _ f).at f (groups + 1) (name :: names))

theorem local_closeFrom (index : Option Nat) (around : Flags) (branches : List (Node × Nat)) :
    LocalCursor (closeFrom index around branches) := by
  refine .of fun f groups names => .byHead rfl fun c => ?_
  by_cases hc : c = ')'
  · subst hc
    exact .cursor _ around groups names
  · exact Local.none.congr fun cs => by simp [closeFrom, hc]

/-- All that is read of groups is read alike, however many parts may be entered. -/
theorem local_groups (fuel : Nat) :
    LocalCursor (readBranches fuel) ∧ (∀ items, LocalCursor (readItems fuel items)) ∧
      LocalCursor (readGroup fuel) ∧ ∀ index around, LocalCursor (readBody fuel index around) := by
  -- every reader only calls readers with one part less to enter
  induction fuel with
  | zero =>
    have hnone : ∀ {α : Type} [Remainder α], LocalCursor fun _ => (none : Option α) :=
      .of fun _ _ _ => .none
    exact ⟨hnone, fun _ => hnone, hnone, fun _ _ => hnone⟩
  | succ fuel ih =>
    obtain ⟨hbranches, hitems, hgroup, hbody⟩ := ih
    refine ⟨.of fun f groups names => ?_, fun items => .of fun f groups names => ?_,
      .of fun f groups names => ?_, fun index around => .of fun f groups names => ?_⟩
    · exact (((hitems []).at f groups names).thenCursor (local_branchesFrom hbranches)).congr
        fun cs => readBranches_succ fuel _
    · have hparts : Local (partsFrom fuel f groups names items) := local_partsFrom hitems hgroup
      have hends := Local.cond endsBranch_closing (.cursor items f groups names) hparts
      exact (Local.skip f hends).congr fun cs => readItems_succ fuel items _
    · exact (Local.cond isAround_closing .none
        (firm_afterNameOpening?.elim (local_namedFrom hbody) (local_groupFrom hbody))).congr
          fun cs => readGroup_succ fuel _
    · exact ((hbranches.at f groups names).thenCursor (local_closeFrom index around)).congr
        fun cs => readBody_succ fuel index around _

end

/-! ### Enough parts to enter -/

section
variable {k l : Nat} {f : Flags} {groups : Nat} {names : List (List Char)} {items : List Item}

theorem branchesFrom_congr {c : Cursor}
    (h : ∀ c' : Cursor, c'.rest.length < c.rest.length → readBranches k c' = readBranches l c') :
    branchesFrom k items c = branchesFrom l items c :=
  onHead_congr (fun rest hrest => by rw [h { c with rest } hrest]) rfl

theorem partsFrom_congr {cs : List Char}
    (hitems : ∀ items c, c.rest.length < cs.length → readItems k items c = readItems l items c)
    (hgroup : ∀ c, c.rest.length < cs.length → readGroup k c = readGroup l c)
    (hset : ∀ rest, rest.length < cs.length → readSet f k rest = readSet f l rest) :
    partsFrom k f groups names items cs = partsFrom l f groups names items cs := by
  have hgo : ∀ items rest, rest.length < cs.length →
      goOn k f groups names (items, rest) = goOn l f groups names (items, rest) :=
    fun items rest hrest => hitems items ⟨rest, f, groups, names⟩ hrest
  have hrepeat : ∀ lo hi more, more.length < cs.length →
      (repeated f lo hi items more).bind (goOn k f groups names) =
        (repeated f lo hi items more).bind (goOn l f groups names) := fun lo hi more hmore =>
    ((local_repeated f lo hi items).leaves more).bind_congr
      fun r hr => hgo r.1 r.2 (Nat.lt_of_le_of_lt hr hmore)
  unfold partsFrom
  refine onHead_congr (fun inner hinner => ?_) <| onHead_congr (fun inner hinner => ?_) <|
    onHead_congr (hrepeat 0 (some 1)) <| onHead_congr (hrepeat 0 none) <|
    onHead_congr (hrepeat 1 none) <| onHead_congr (fun more hmore => ?_) ?_
  · have hskip := (skip_suffix f inner).length_le
    rw [hgroup ⟨skip f inner, f, groups, names⟩ (Nat.lt_of_le_of_lt hskip hinner)]
    refine ((local_groups l).2.2.1.leaves ⟨skip f inner, f, groups, names⟩).bind_congr
      fun r hr => hitems (r.1 :: items) r.2 ?_
    have hr : r.2.rest.length ≤ (skip f inner).length := hr
    omega
  · rw [hset inner hinner]
    exact ((local_readSets f l).1.leaves inner).bind_congr
      fun r hr => hgo _ r.2.2 (Nat.lt_of_le_of_lt hr hinner)
  · refine ((local_readBounds f).leaves more).bind_congr fun b hb => hrepeat b.1 b.2.1 _ ?_
    have hb : b.2.2.length ≤ more.length := hb
    have hskip := (skip_suffix f b.2.2).length_le
    omega
  · cases cs with
    | nil => rfl
    | cons c cs =>
      exact (leaves_readPrimitive f c cs).bind_congr
        fun r hr => hgo _ r.2 (Nat.lt_succ_of_le hr)

theorem groupFrom_congr {cs : List Char}
    (h : ∀ index c, c.rest.length ≤ cs.length → readBody k index f c = readBody l index f c) :
    groupFrom k f groups names cs = groupFrom l f groups names cs := by
  refine onHead_congr (fun rest hrest => ?_) (h _ ⟨cs, f, groups + 1, names⟩ (Nat.le_refl _))
  refine ((local_readFlags f []).leaves rest).bind_congr fun t ht => ?_
  have ht : t.rest.length ≤ rest.length := ht
  unfold flagsFrom
  rw [h none ⟨t.rest, t.flags, groups, names⟩ (by dsimp only; omega)]

theorem namedFrom_congr {cs : List Char}
    (h : ∀ index c, c.rest.length ≤ cs.length → readBody k index f c = readBody l index f c) :
    namedFrom k f groups names cs = namedFrom l f groups names cs :=
  (local_readGroupName.leaves cs).bind_congr fun r hr => by
    rw [h _ ⟨r.2, f, groups + 1, r.1 :: names⟩ hr]

/-- How many parts may be entered makes no difference once it is four times the length of the
text. -/
theorem groups_enough (k : Nat) :
    (∀ l (c : Cursor), 4 * c.rest.length + 2 ≤ k → 4 * c.rest.length + 2 ≤ l →
      readBranches k c = readBranches l c) ∧
    (∀ l items (c : Cursor), 4 * c.rest.length + 1 ≤ k → 4 * c.rest.length + 1 ≤ l →
      readItems k items c = readItems l items c) ∧
    (∀ l (c : Cursor), 4 * c.rest.length + 4 ≤ k → 4 * c.rest.length + 4 ≤ l →
      readGroup k c = readGroup l c) ∧
    ∀ l index around (c : Cursor), 4 * c.rest.length + 3 ≤ k → 4 * c.rest.length + 3 ≤ l →
      readBody k index around c = readBody l index around c := by
  -- at most four readers call one another before a character is taken up
  induction k with
  | zero =>
    exact ⟨fun l c hk => by omega, fun l items c hk => by omega, fun l c hk => by omega,
      fun l index around c hk => by omega⟩
  | succ k ih =>
    obtain ⟨hbranches, hitems, hgroup, hbody⟩ := ih
    refine ⟨fun l c hk hl => ?_, fun l items c hk hl => ?_, fun l c hk hl => ?_,
      fun l index around c hk hl => ?_⟩
    all_goals obtain ⟨l, rfl⟩ := Nat.exists_eq_add_one_of_ne_zero (show l ≠ 0 by omega)
    · rw [readBranches_succ, readBranches_succ, hitems l [] c (by omega) (by omega)]
      refine (((local_groups l).2.1 []).leaves c).bind_congr fun r hr => branchesFrom_congr ?_
      intro c' hc'
      have hr : r.2.rest.length ≤ c.rest.length := hr
      exact hbranches l c' (by omega) (by omega)
    · have hskip := (skip_suffix c.flags c.rest).length_le
      rw [readItems_succ, readItems_succ]
      rw [partsFrom_congr (fun items c' hc' => hitems l items c' (by omega) (by omega))
        (fun c' hc' => hgroup l c' (by omega) (by omega))
        fun rest hrest => (readSets_enough k).1 l rest (by omega) (by omega)]
    · have hnext : ∀ cs : List Char, cs.length ≤ c.rest.length → ∀ index (c' : Cursor),
          c'.rest.length ≤ cs.length →
            readBody k index c.flags c' = readBody l index c.flags c' :=
        fun cs hcs index c' hc' => hbody l index c.flags c' (by omega) (by omega)
      rw [readGroup_succ, readGroup_succ, groupFrom_congr (hnext c.rest (Nat.le_refl _))]
      cases hopen : afterNameOpening? c.rest with
      | none => rfl
      | some opened =>
        have hopened := (firm_afterNameOpening?.leaves c.rest opened hopen).length_le
        rw [Option.elim_some, Option.elim_some, namedFrom_congr (hnext opened hopened)]
    · rw [readBody_succ, readBody_succ, hbranches l c (by omega) (by omega)]

end

end InfoModel.Pattern

import InfoModel.Proofs.Tree.Numeral

/-!
# Documents as they are written

The grammar of documents, and that the reader follows it: a text that the grammar has for a tree is
read as this tree, whatever gaps stand between its tokens and whichever of its characters are
escaped. Main statement: `Tree.ofText?_of_writes`.
-/

namespace InfoModel.Tree
open Text Unicode

/-! ### Gaps -/

/-- The text stands with gaps around it. -/
def Spaced (cs spaced : List Char) : Prop :=
  ∃ front back, (∀ c ∈ front, isGap c = true) ∧ (∀ c ∈ back, isGap c = true) ∧
    spaced = front ++ cs ++ back

theorem skipGaps_append {gs : List Char} (h : ∀ c ∈ gs, isGap c = true) (cs : List Char) :
    skipGaps (gs ++ cs) = skipGaps cs :=
  List.dropWhile_append_of_pos h

theorem skipGaps_cons {c : Char} (h : isGap c = false) (cs : List Char) :
    skipGaps (c :: cs) = c :: cs :=
  List.dropWhile_cons_of_neg (by simp [h])

theorem skipGaps_skipGaps (cs : List Char) : skipGaps (skipGaps cs) = skipGaps cs := by
  induction cs with
  | nil => rfl
  | cons c cs ih =>
    by_cases hc : isGap c = true
    · rw [show skipGaps (c :: cs) = skipGaps cs from List.dropWhile_cons_of_pos hc, ih]
    · have hgap := Bool.eq_false_iff.mpr hc
      rw [skipGaps_cons hgap, skipGaps_cons hgap]

theorem Spaced.skipGaps_eq {c : Char} {cs ds : List Char} (h : Spaced (c :: cs) ds)
    (hc : isGap c = false) (rest : List Char) : ∃ back, (∀ g ∈ back, isGap g = true) ∧
      skipGaps (ds ++ rest) = c :: (cs ++ (back ++ rest)) := by
  obtain ⟨front, back, hfront, hback, rfl⟩ := h
  refine ⟨back, hback, ?_⟩
  rw [List.append_assoc, List.append_assoc, skipGaps_append hfront, List.cons_append,
    skipGaps_cons hc]

theorem ends_gaps {gs rest : List Char} (hgs : ∀ c ∈ gs, isGap c = true) (hrest : Ends rest) :
    Ends (gs ++ rest) := by
  cases gs with
  | nil => exact hrest
  | cons g gs =>
    intro c hc
    cases hc
    exact .inl (hgs g List.mem_cons_self)

/-! ### Texts -/

/-- The characters of a text, from after its opening quote up to its closing one, as they are
written: each stands for itself or is escaped. -/
inductive WrittenText : List Char → List Char → Prop
  | close : WrittenText [] ['"']
  | plain {c : Char} {s cs : List Char} (unquoted : c ≠ '"') (unescaped : c ≠ '\\')
      (printed : 32 ≤ c.toNat) (rest : WrittenText s cs) : WrittenText (c :: s) (c :: cs)
  | escaped {c : Char} {es s cs : List Char} (read : readEscape es = some (c, []))
      (rest : WrittenText s cs) : WrittenText (c :: s) ('\\' :: (es ++ cs))

def IsPlain (c : Char) : Prop := c ≠ '"' ∧ c ≠ '\\' ∧ 32 ≤ c.toNat

instance : DecidablePred IsPlain := fun _ => inferInstanceAs (Decidable (_ ∧ _ ∧ _))

theorem writtenText_of_plain {s : List Char} (h : ∀ c ∈ s, IsPlain c) :
    WrittenText s (s ++ ['"']) := by
  induction s with
  | nil => exact .close
  | cons c s ih =>
    obtain ⟨⟨hquote, hbackslash, hprinted⟩, hs⟩ := List.forall_mem_cons.mp h
    exact .plain hquote hbackslash hprinted (ih hs)

theorem readUnit_append {cs r : List Char} {n : Nat} (h : readUnit cs = some (n, r))
    (rest : List Char) : readUnit (cs ++ rest) = some (n, r ++ rest) := by
  unfold readUnit at h ⊢
  dsimp only at h ⊢
  split at h
  · next hunit =>
    cases h
    have hlength : 4 ≤ cs.length := by
      rw [Bool.and_eq_true, decide_eq_true_iff, List.length_take] at hunit
      omega
    rw [List.take_append_of_le_length hlength, List.drop_append_of_le_length hlength, if_pos hunit]
  · cases h

theorem readLow_append {cs r : List Char} {n : Nat} (h : readLow cs = some (n, r))
    (rest : List Char) : readLow (cs ++ rest) = some (n, r ++ rest) := by
  unfold readLow at h
  split at h
  · next cs =>
    obtain ⟨hunit, hlow⟩ := Option.filter_eq_some_iff.mp h
    show (readUnit (cs ++ rest)).filter _ = _
    rw [readUnit_append hunit]
    exact Option.filter_eq_some_iff.mpr ⟨rfl, hlow⟩
  · cases h

theorem readCode_append {cs r : List Char} {c : Char} (h : readCode cs = some (c, r))
    (rest : List Char) : readCode (cs ++ rest) = some (c, r ++ rest) := by
  obtain ⟨⟨high, cs'⟩, hhigh, h⟩ := Option.bind_eq_some_iff.mp h
  unfold readCode
  rw [readUnit_append hhigh]
  dsimp only [Option.bind_eq_bind, Option.bind_some] at h ⊢
  split at h
  · next hpair =>
    obtain ⟨⟨low, cs''⟩, hlow, h⟩ := Option.bind_eq_some_iff.mp h
    obtain ⟨rfl, rfl⟩ := Prod.mk.inj (Option.some.inj h)
    rw [if_pos hpair, readLow_append hlow]
    rfl
  · next hsingle =>
    rw [if_neg hsingle]
    split at h
    · cases h
    · next hunit =>
      cases h
      rw [if_neg hunit]
      rfl

theorem readEscape_append {es r : List Char} {c : Char} (h : readEscape es = some (c, r))
    (rest : List Char) : readEscape (es ++ rest) = some (c, r ++ rest) := by
  unfold readEscape at h
  split at h
  case h_9 => exact readCode_append h rest
  case h_10 => cases h
  all_goals
    cases h
    rfl

theorem WrittenText.read {s cs : List Char} (h : WrittenText s cs) {fuel : Nat}
    (hfuel : cs.length ≤ fuel) (done rest : List Char) :
    readText fuel done (cs ++ rest) = some (String.ofList (done.reverse ++ s), rest) := by
  induction h generalizing fuel done with
  | close =>
    obtain ⟨fuel, rfl⟩ := Nat.exists_eq_succ_of_ne_zero (Nat.ne_zero_of_lt hfuel)
    simp [readText]
  | @plain c s cs unquoted unescaped printed _ ih =>
    obtain ⟨fuel, rfl⟩ := Nat.exists_eq_succ_of_ne_zero (Nat.ne_zero_of_lt hfuel)
    have hread := ih (Nat.le_of_succ_le_succ hfuel) (c :: done)
    rw [List.cons_append]
    unfold readText
    rw [if_neg unquoted, if_neg unescaped, if_neg (Nat.not_lt.mpr printed), hread]
    simp
  | @escaped c es s cs read _ ih =>
    obtain ⟨fuel, rfl⟩ := Nat.exists_eq_succ_of_ne_zero (Nat.ne_zero_of_lt hfuel)
    have hshort : cs.length ≤ fuel := by
      simp only [List.length_cons, List.length_append] at hfuel
      omega
    have hread := ih hshort (c :: done)
    rw [List.cons_append, List.append_assoc]
    unfold readText
    rw [if_neg (by decide), if_pos rfl, readEscape_append read]
    dsimp only [List.nil_append]
    rw [hread]
    simp

/-! ### Trees -/

mutual

/-- How a tree is written, without gaps around it. -/
inductive Written : Tree → List Char → Prop
  | null : Written .null "null".toList
  | bool (b : Bool) : Written (.bool b) (boolText b).toList
  | number {t : Tree} {cs : List Char} (read : readNumber cs = some (t, [])) : Written t cs
  | text {s : String} {cs : List Char} (characters : WrittenText s.toList cs) :
      Written (.text s) ('"' :: cs)
  | noItems {gs : List Char} (gaps : ∀ c ∈ gs, isGap c = true) :
      Written (.list []) ('[' :: (gs ++ [']']))
  | items {ts : List Tree} {cs : List Char} (written : WrittenItems ts cs) :
      Written (.list ts) ('[' :: (cs ++ [']']))
  | noEntries {gs : List Char} (gaps : ∀ c ∈ gs, isGap c = true) :
      Written (.record []) ('\x7b' :: (gs ++ ['\x7d']))
  | entries {es : List (String × Tree)} {cs : List Char} (written : WrittenEntries es cs) :
      Written (.record es) ('\x7b' :: (cs ++ ['\x7d']))

inductive WrittenItems : List Tree → List Char → Prop
  | one {t : Tree} {cs ds : List Char} (item : Written t cs) (spaced : Spaced cs ds) :
      WrittenItems [t] ds
  | more {t : Tree} {ts : List Tree} {cs ds rest : List Char} (item : Written t cs)
      (spaced : Spaced cs ds) (others : WrittenItems ts rest) :
      WrittenItems (t :: ts) (ds ++ ',' :: rest)

inductive WrittenEntries : List (String × Tree) → List Char → Prop
  | one {key : String} {t : Tree} {ks js cs ds : List Char} (name : WrittenText key.toList ks)
      (around : Spaced ('"' :: ks) js) (value : Written t cs) (spaced : Spaced cs ds) :
      WrittenEntries [(key, t)] (js ++ ':' :: ds)
  | more {key : String} {t : Tree} {es : List (String × Tree)} {ks js cs ds rest : List Char}
      (name : WrittenText key.toList ks) (around : Spaced ('"' :: ks) js) (value : Written t cs)
      (spaced : Spaced cs ds) (others : WrittenEntries es rest) :
      WrittenEntries ((key, t) :: es) (js ++ ':' :: (ds ++ ',' :: rest))

end

/-! ### First characters -/

theorem head_of_readNumber {t : Tree} {cs r : List Char} (h : readNumber cs = some (t, r)) :
    ∃ c cs', cs = c :: cs' ∧ (c = '-' ∨ isAsciiDigit c = true) := by
  obtain ⟨whole, cs₁, -, -, -, hwhole, -⟩ := readNumber_eq_some_iff.mp h
  obtain ⟨⟨ds, r⟩, hdigits, -⟩ := Option.bind_eq_some_iff.mp hwhole
  cases cs with
  | nil => cases hdigits
  | cons c cs =>
    refine ⟨c, cs, rfl, ?_⟩
    by_cases hc : c = '-'
    · exact .inl hc
    · right
      have hcut : cutMinus (c :: cs) = (false, c :: cs) := by simp [cutMinus, hc]
      rw [hcut] at hdigits
      cases hdigit : isAsciiDigit c with
      | true => rfl
      | false => simp [readDigits, hdigit] at hdigits

theorem Written.head {t : Tree} {cs : List Char} (h : Written t cs) :
    ∃ c cs', cs = c :: cs' ∧ isGap c = false ∧ c ≠ ']' := by
  cases h with
  | null => exact ⟨_, _, rfl, by decide, by decide⟩
  | bool b => cases b <;> exact ⟨_, _, rfl, by decide, by decide⟩
  | number read =>
    obtain ⟨c, cs', rfl, hc⟩ := head_of_readNumber read
    refine ⟨c, cs', rfl, ?_⟩
    rcases hc with rfl | hdigit
    · decide
    · refine ⟨Bool.eq_false_iff.mpr fun hgap => ?_, ?_⟩
      · have hends : Ends [c] := fun d hd => .inl (Option.some.inj hd ▸ hgap)
        rw [(hends.head rfl).1] at hdigit
        cases hdigit
      · rintro rfl
        cases hdigit
  | text _ => exact ⟨_, _, rfl, by decide, by decide⟩
  | noItems _ => exact ⟨_, _, rfl, by decide, by decide⟩
  | items _ => exact ⟨_, _, rfl, by decide, by decide⟩
  | noEntries _ => exact ⟨_, _, rfl, by decide, by decide⟩
  | entries _ => exact ⟨_, _, rfl, by decide, by decide⟩

theorem Written.skipGaps_ne {t : Tree} {cs ds : List Char} (h : Written t cs) (hds : Spaced cs ds)
    (rest r : List Char) : skipGaps (ds ++ rest) ≠ ']' :: r := by
  obtain ⟨c, cs, rfl, hgap, hc⟩ := h.head
  obtain ⟨back, -, hskip⟩ := hds.skipGaps_eq hgap rest
  rw [hskip]
  exact fun h => hc (List.cons_eq_cons.mp h).1

theorem WrittenItems.skipGaps_ne {ts : List Tree} {cs : List Char} (h : WrittenItems ts cs)
    (rest r : List Char) : skipGaps (cs ++ rest) ≠ ']' :: r := by
  cases h with
  | one item spaced => exact item.skipGaps_ne spaced rest r
  | more item spaced others =>
    rw [List.append_assoc]
    exact item.skipGaps_ne spaced _ r

theorem WrittenEntries.skipGaps_ne {es : List (String × Tree)} {cs : List Char}
    (h : WrittenEntries es cs) (rest r : List Char) : skipGaps (cs ++ rest) ≠ '\x7d' :: r := by
  have hkey : ∀ {ks js : List Char}, Spaced ('"' :: ks) js → ∀ rest,
      skipGaps (js ++ rest) ≠ '\x7d' :: r := by
    intro ks js hjs rest
    obtain ⟨back, -, hskip⟩ := hjs.skipGaps_eq (by decide) rest
    rw [hskip]
    exact fun h => absurd (List.cons_eq_cons.mp h).1 (by decide)
  cases h with
  | one name around value spaced =>
    rw [List.append_assoc]
    exact hkey around _
  | more name around value spaced others =>
    rw [List.append_assoc]
    exact hkey around _

/-! ### Cases of the reader -/

section
variable {fuel : Nat} {cs r : List Char}

theorem readTree_skipGaps (fuel : Nat) (cs : List Char) :
    readTree fuel (skipGaps cs) = readTree fuel cs := by
  cases fuel with
  | zero => rfl
  | succ fuel =>
    unfold readTree
    rw [skipGaps_skipGaps]

theorem readItems_skipGaps (fuel : Nat) (done : List Tree) (cs : List Char) :
    readItems fuel done (skipGaps cs) = readItems fuel done cs := by
  cases fuel with
  | zero => rfl
  | succ fuel =>
    unfold readItems
    rw [readTree_skipGaps]

theorem readEntries_skipGaps (fuel : Nat) (done : List (String × Tree)) (cs : List Char) :
    readEntries fuel done (skipGaps cs) = readEntries fuel done cs := by
  cases fuel with
  | zero => rfl
  | succ fuel =>
    unfold readEntries readKey
    rw [skipGaps_skipGaps]

theorem readWord_append (word : String) (meaning : Tree) (rest : List Char) :
    readWord word meaning (word.toList ++ rest) = some (meaning, rest) := by
  unfold readWord
  rw [← String.length_toList, List.take_left, List.drop_left, beq_self_eq_true]

theorem readTree_noItems (h : skipGaps cs = ']' :: r) :
    readTree (fuel + 1) ('[' :: cs) = some (.list [], r) := by
  unfold readTree
  rw [skipGaps_cons (by decide)]
  simp only [h]

theorem readTree_noEntries (h : skipGaps cs = '\x7d' :: r) :
    readTree (fuel + 1) ('\x7b' :: cs) = some (.record [], r) := by
  unfold readTree
  rw [skipGaps_cons (by decide)]
  simp only [h]

theorem readTree_items (h : ∀ r, skipGaps cs ≠ ']' :: r) :
    readTree (fuel + 1) ('[' :: cs) = readItems fuel [] cs := by
  unfold readTree
  rw [skipGaps_cons (by decide), ← readItems_skipGaps]
  -- by assumption the first case of the last match does not apply
  simp only

theorem readTree_entries (h : ∀ r, skipGaps cs ≠ '\x7d' :: r) :
    readTree (fuel + 1) ('\x7b' :: cs) = readEntries fuel [] cs := by
  unfold readTree
  rw [skipGaps_cons (by decide), ← readEntries_skipGaps]
  simp only

end

/-! ### Reading what is written -/

/-- The reader takes the tree from the front of a text and leaves what follows. -/
def Reads (t : Tree) (cs : List Char) : Prop :=
  ∀ fuel rest, cs.length < fuel → Ends rest → readTree fuel (cs ++ rest) = some (t, rest)

theorem ends_mark {c : Char} (hc : c = ',' ∨ c = ']' ∨ c = '\x7d') (rest : List Char) :
    Ends (c :: rest) := by
  intro d hd
  cases hd
  exact .inr hc

theorem Reads.intro {t : Tree} {cs : List Char} (h : ∀ fuel rest, cs.length ≤ fuel → Ends rest →
    readTree (fuel + 1) (cs ++ rest) = some (t, rest)) : Reads t cs := by
  intro fuel rest hfuel hrest
  obtain ⟨fuel, rfl⟩ := Nat.exists_eq_succ_of_ne_zero (Nat.ne_zero_of_lt hfuel)
  exact h fuel rest (Nat.le_of_lt_succ hfuel) hrest

theorem Reads.spaced {t : Tree} {cs ds : List Char} (h : Reads t cs) (hds : Spaced cs ds)
    {fuel : Nat} (hfuel : ds.length < fuel) {rest : List Char} (hrest : Ends rest) :
    ∃ left, readTree fuel (ds ++ rest) = some (t, left) ∧ skipGaps left = skipGaps rest := by
  obtain ⟨front, back, hfront, hback, rfl⟩ := hds
  refine ⟨back ++ rest, ?_, skipGaps_append hback rest⟩
  have hshort : cs.length < fuel := by
    simp only [List.length_append] at hfuel
    omega
  rw [← readTree_skipGaps, List.append_assoc, List.append_assoc, skipGaps_append hfront,
    readTree_skipGaps]
  exact h fuel _ hshort (ends_gaps hback hrest)

theorem reads_number {t : Tree} {cs : List Char} (h : readNumber cs = some (t, [])) :
    Reads t cs := by
  refine .intro fun fuel rest hfuel hrest => ?_
  have hread := readNumber_append h hrest
  obtain ⟨c, cs, rfl, hc⟩ := head_of_readNumber h
  obtain ⟨_, _, hcons, hgap, -⟩ := (Written.number h).head
  obtain ⟨rfl, rfl⟩ := List.cons_eq_cons.mp hcons
  rw [List.cons_append] at hread ⊢
  unfold readTree
  rw [skipGaps_cons hgap]
  dsimp only
  split
  case h_7 => exact hread
  -- a minus or a digit begins nothing else
  all_goals exact absurd hc (by decide)

theorem reads_text {s : String} {cs : List Char} (h : WrittenText s.toList cs) :
    Reads (.text s) ('"' :: cs) := by
  refine .intro fun fuel rest hfuel hrest => ?_
  have hshort : cs.length ≤ fuel + 1 := Nat.le_of_lt (Nat.lt_succ_of_lt hfuel)
  have hread := h.read hshort [] rest
  rw [List.cons_append]
  unfold readTree
  rw [skipGaps_cons (by decide)]
  show (readText (fuel + 1) [] (cs ++ rest)).map _ = _
  rw [hread]
  simp

theorem reads_bool (b : Bool) : Reads (.bool b) (boolText b).toList := by
  refine .intro fun fuel rest hfuel hrest => ?_
  cases b with
  | true => exact readWord_append "true" _ rest
  | false => exact readWord_append "false" _ rest

theorem reads_null : Reads .null "null".toList := by
  refine .intro fun fuel rest hfuel hrest => ?_
  exact readWord_append "null" _ rest

theorem reads_noItems {gs : List Char} (h : ∀ c ∈ gs, isGap c = true) :
    Reads (.list []) ('[' :: (gs ++ [']'])) := by
  refine .intro fun fuel rest hfuel hrest => ?_
  rw [List.cons_append, List.append_assoc]
  refine readTree_noItems ?_
  rw [skipGaps_append h]
  exact skipGaps_cons (by decide) rest

theorem reads_noEntries {gs : List Char} (h : ∀ c ∈ gs, isGap c = true) :
    Reads (.record []) ('\x7b' :: (gs ++ ['\x7d'])) := by
  refine .intro fun fuel rest hfuel hrest => ?_
  rw [List.cons_append, List.append_assoc]
  refine readTree_noEntries ?_
  rw [skipGaps_append h]
  exact skipGaps_cons (by decide) rest

theorem readKey_of_written {key : String} {ks js : List Char} (h : WrittenText key.toList ks)
    (hjs : Spaced ('"' :: ks) js) {fuel : Nat} (hfuel : js.length ≤ fuel) (cs : List Char) :
    readKey fuel (js ++ ':' :: cs) = some (key, cs) := by
  have hshort : ks.length ≤ fuel := by
    obtain ⟨front, back, -, -, rfl⟩ := hjs
    simp only [List.length_append, List.length_cons] at hfuel
    omega
  obtain ⟨back, hback, hskip⟩ := hjs.skipGaps_eq (by decide) (':' :: cs)
  have hcolon : skipGaps (back ++ ':' :: cs) = ':' :: cs := by
    rw [skipGaps_append hback, skipGaps_cons (by decide)]
  unfold readKey
  rw [hskip]
  simp only [h.read hshort, hcolon, List.reverse_nil, List.nil_append, String.ofList_toList]

-- The length of what is written bounds the depth: each of the three readers takes a character
-- before it calls another.
mutual

/-- A tree is read as it is written. -/
theorem Written.reads {t : Tree} {cs : List Char} (h : Written t cs) : Reads t cs := by
  cases h with
  | null => exact reads_null
  | bool b => exact reads_bool b
  | number read => exact reads_number read
  | text characters => exact reads_text characters
  | noItems gaps => exact reads_noItems gaps
  | noEntries gaps => exact reads_noEntries gaps
  | @items ts cs written =>
    refine .intro fun fuel rest hfuel hrest => ?_
    have hshort : cs.length + 1 < fuel := by
      simp only [List.length_cons, List.length_append, List.length_nil] at hfuel
      omega
    rw [List.cons_append, List.append_assoc, readTree_items (written.skipGaps_ne _)]
    exact written.reads hshort [] rest
  | @entries es cs written =>
    refine .intro fun fuel rest hfuel hrest => ?_
    have hshort : cs.length + 1 < fuel := by
      simp only [List.length_cons, List.length_append, List.length_nil] at hfuel
      omega
    rw [List.cons_append, List.append_assoc, readTree_entries (written.skipGaps_ne _)]
    exact written.reads hshort [] rest

theorem WrittenItems.reads {ts : List Tree} {cs : List Char} (h : WrittenItems ts cs) {fuel : Nat}
    (hfuel : cs.length + 1 < fuel) (done : List Tree) (rest : List Char) :
    readItems fuel done (cs ++ ']' :: rest) = some (.list (done.reverse ++ ts), rest) := by
  obtain ⟨fuel, rfl⟩ := Nat.exists_eq_succ_of_ne_zero (Nat.ne_zero_of_lt hfuel)
  cases h with
  | one item spaced =>
    obtain ⟨left, hread, hleft⟩ := item.reads.spaced spaced (Nat.lt_of_succ_lt_succ hfuel)
      (ends_mark (.inr (.inl rfl)) rest)
    unfold readItems
    rw [hread]
    dsimp only
    rw [hleft, skipGaps_cons (by decide)]
    simp
  | @more t ts cs ds others item spaced written =>
    have hshort : ds.length < fuel ∧ others.length + 1 < fuel := by
      simp only [List.length_cons, List.length_append] at hfuel
      omega
    obtain ⟨left, hread, hleft⟩ := item.reads.spaced spaced hshort.1
      (ends_mark (.inl rfl) (others ++ ']' :: rest))
    have hothers := written.reads hshort.2 (t :: done) rest
    unfold readItems
    rw [List.append_assoc, List.cons_append, hread]
    dsimp only
    rw [hleft, skipGaps_cons (by decide)]
    simp [hothers]

theorem WrittenEntries.reads {es : List (String × Tree)} {cs : List Char}
    (h : WrittenEntries es cs) {fuel : Nat} (hfuel : cs.length + 1 < fuel)
    (done : List (String × Tree)) (rest : List Char) :
    readEntries fuel done (cs ++ '\x7d' :: rest) =
      some (.record (done.reverse ++ es), rest) := by
  obtain ⟨fuel, rfl⟩ := Nat.exists_eq_succ_of_ne_zero (Nat.ne_zero_of_lt hfuel)
  cases h with
  | @one key t ks js cs ds name around value spaced =>
    have hshort : js.length ≤ fuel + 1 ∧ ds.length < fuel := by
      simp only [List.length_cons, List.length_append] at hfuel
      omega
    obtain ⟨left, hread, hleft⟩ := value.reads.spaced spaced hshort.2
      (ends_mark (.inr (.inr rfl)) rest)
    unfold readEntries
    rw [List.append_assoc, List.cons_append, readKey_of_written name around hshort.1]
    dsimp only
    rw [hread]
    dsimp only
    rw [hleft, skipGaps_cons (by decide)]
    simp
  | @more key t es ks js cs ds others name around value spaced written =>
    have hshort : js.length ≤ fuel + 1 ∧ ds.length < fuel ∧ others.length + 1 < fuel := by
      simp only [List.length_cons, List.length_append] at hfuel
      omega
    obtain ⟨left, hread, hleft⟩ := value.reads.spaced spaced hshort.2.1
      (ends_mark (.inl rfl) (others ++ '\x7d' :: rest))
    have hothers := written.reads hshort.2.2 ((key, t) :: done) rest
    unfold readEntries
    rw [List.append_assoc, List.cons_append, List.append_assoc, List.cons_append,
      readKey_of_written name around hshort.1]
    dsimp only
    rw [hread]
    dsimp only
    rw [hleft, skipGaps_cons (by decide)]
    simp [hothers]

end

/-! ### Documents -/

/-- The text is a document that writes the tree, with gaps around it. -/
def Writes (t : Tree) (s : String) : Prop := ∃ cs, Written t cs ∧ Spaced cs s.toList

/-- A document is read as the tree that it writes. -/
theorem ofText?_of_writes {t : Tree} {s : String} (h : Writes t s) : ofText? s = some t := by
  obtain ⟨cs, hcs, hs⟩ := h
  have hends : Ends [] := fun c hc => (nomatch hc)
  obtain ⟨left, hread, hleft⟩ := hcs.reads.spaced hs (Nat.lt_succ_self _) hends
  rw [List.append_nil] at hread
  unfold ofText?
  dsimp only
  rw [hread]
  dsimp only
  rw [hleft]
  rfl

end InfoModel.Tree

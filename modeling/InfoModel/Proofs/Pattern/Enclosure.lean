import InfoModel.Proofs.Pattern.Group
import InfoModel.Proofs.Pattern.Meaning

/-!
# Patterns that are enclosed

An enclosed pattern means the pattern on the whole value, unless a parenthesis in the pattern closes
the group around it, a comment reaches over the end of that group, or the group and the tests make
the tree too large. Main statement: `compile_faithful_iff`.
-/

namespace InfoModel.Pattern
open Remainder (rest followedBy)

def reading (cs : List Char) : Option (List (Node × Nat) × Cursor) :=
  readBranches (4 * cs.length + 4) ⟨cs, {}, 0, []⟩

/-- The whole text is a pattern, with this tree of this depth. -/
def Reads (cs : List Char) (node : Node) (depth : Nat) : Prop :=
  ∃ branches c, reading cs = some (branches, c) ∧ c.rest = [] ∧
    joinBranches branches = (node, depth)

/-- A parenthesis in the text closes a group that is not opened in it. -/
def StrayClose (cs : List Char) : Prop :=
  ∃ branches c left, reading cs = some (branches, c) ∧ c.rest = ')' :: left

/-- The parenthesis behind the text is not read as a part of it. -/
def Closes (cs : List Char) : Prop := ∃ r, reading (cs ++ closing) = some r ∧ rest r = closing

/-- The tree is not too large. -/
def Fits (node : Node) (depth : Nat) : Prop := depth ≤ maxDepth ∧ node.cost ≤ maxCost

theorem reading_eq {cs : List Char} {fuel : Nat} (h : 4 * cs.length + 2 ≤ fuel) :
    readBranches fuel ⟨cs, {}, 0, []⟩ = reading cs :=
  (groups_enough fuel).1 _ _ h (Nat.le_add_right _ 2)

theorem Reads.unique {cs : List Char} {node node' : Node} {depth depth' : Nat}
    (h : Reads cs node depth) (h' : Reads cs node' depth') : node = node' ∧ depth = depth' := by
  obtain ⟨branches, c, hread, -, hjoin⟩ := h
  obtain ⟨branches', c', hread', -, hjoin'⟩ := h'
  rw [hread] at hread'
  cases hread'
  rw [hjoin] at hjoin'
  exact ⟨congrArg Prod.fst hjoin', congrArg Prod.snd hjoin'⟩

theorem Reads.not_strayClose {cs : List Char} {node : Node} {depth : Nat}
    (h : Reads cs node depth) : ¬ StrayClose cs := by
  rintro ⟨branches', c', left, hread', hleft⟩
  obtain ⟨branches, c, hread, hrest, -⟩ := h
  rw [hread] at hread'
  cases hread'
  rw [hrest] at hleft
  cases hleft

theorem readNode?_eq_some_iff {cs : List Char} {node : Node} :
    readNode? cs = some node ↔ ∃ depth, Reads cs node depth ∧ Fits node depth := by
  constructor
  · intro h
    unfold readNode? at h
    split at h
    · next branches c hread =>
      rcases hjoin : joinBranches branches with ⟨node', depth⟩
      simp only [hjoin, Option.ite_none_right_eq_some, Bool.and_eq_true, List.isEmpty_iff,
        decide_eq_true_eq, Option.some.injEq] at h
      obtain ⟨⟨⟨hrest, hdepth⟩, hcost⟩, rfl⟩ := h
      exact ⟨depth, ⟨branches, c, hread, hrest, hjoin⟩, hdepth, hcost⟩
    · cases h
  · rintro ⟨depth, ⟨branches, c, hread, hrest, hjoin⟩, hdepth, hcost⟩
    have hread : readBranches (4 * cs.length + 4) ⟨cs, {}, 0, []⟩ = some (branches, c) := hread
    simp [readNode?, hread, hjoin, hrest, hdepth, hcost]

theorem isSome_readNode?_iff {cs : List Char} :
    (readNode? cs).isSome ↔ ∃ node depth, Reads cs node depth ∧ Fits node depth := by
  simp only [Option.isSome_iff_exists, readNode?_eq_some_iff]

theorem alike_reading (cs : List Char) : Alike cs (reading cs) (reading (cs ++ closing)) := by
  have hlength : (cs ++ closing).length = cs.length + 2 := by simp [closing]
  have halone : readBranches (4 * (cs.length + 2) + 4) ⟨cs, {}, 0, []⟩ = reading cs :=
    reading_eq (by omega)
  have hclosed : readBranches (4 * (cs.length + 2) + 4) ⟨cs ++ closing, {}, 0, []⟩ =
      reading (cs ++ closing) := reading_eq (by omega)
  rw [← halone, ← hclosed]
  exact (local_groups _).1.alike ⟨cs, {}, 0, []⟩

/-- What stops at a parenthesis before the closing tests has stopped so without them. -/
theorem reading_of_closing {cs left : List Char} {branches : List (Node × Nat)} {c : Cursor}
    (h : reading (cs ++ closing) = some (branches, c)) (hc : c.rest = ')' :: left) :
    ∃ c', reading cs = some (branches, c') ∧ c = followedBy closing c' := by
  rcases alike_reading cs with heq | ⟨-, hpast⟩
  · rw [h] at heq
    obtain ⟨⟨branches', c'⟩, hread, hfollowed⟩ := Option.map_eq_some_iff.mp heq.symm
    cases hfollowed
    exact ⟨c', hread, rfl⟩
  · -- behind the closing parenthesis there is no other one
    have hsuffix : c.rest <:+ ['$'] := hpast _ h
    rw [hc, List.suffix_cons_iff] at hsuffix
    rcases hsuffix with hsuffix | hsuffix
    · cases hsuffix
    · exact absurd (List.suffix_nil.mp hsuffix) (List.cons_ne_nil _ _)

/-- The closing parenthesis closes the group around a pattern without comments. -/
theorem Reads.closes {cs : List Char} {node : Node} {depth : Nat} (h : Reads cs node depth)
    (hcs : '#' ∉ cs) : Closes cs := by
  obtain ⟨branches, c, hread, hrest, -⟩ := h
  rcases alike_reading cs with heq | ⟨hcomment, -⟩
  · rw [hread] at heq
    refine ⟨_, heq, ?_⟩
    show c.rest ++ closing = closing
    rw [hrest, List.nil_append]
  · exact absurd (hcomment (by rw [hread]; rfl)) hcs

def Node.whole (node : Node) : Node := .seq (.look .textStart) (.seq node (.look .textEnd))

theorem Node.cost_whole (node : Node) : node.whole.cost = node.cost + 64 := by
  simp only [whole, cost]
  omega

theorem fits_whole_iff {node : Node} {depth : Nat} :
    Fits node.whole (depth + 2) ↔ depth + 2 ≤ maxDepth ∧ node.cost + 64 ≤ maxCost := by
  rw [Fits, Node.cost_whole]

def opening : List Char := ['^', '(', '?', ':']

theorem enclosed_eq (source : String) :
    enclosed source = opening ++ (source.toList ++ closing) := by
  have hopening : "^(?:".toList = opening := by decide
  have hclosing : ")$".toList = closing := by decide
  unfold enclosed
  rw [hopening, hclosing, List.append_assoc]

theorem skip_plain (cs : List Char) : skip {} cs = cs := rfl

theorem readItems_plain {fuel groups : Nat} {names : List (List Char)} {items : List Item}
    {cs : List Char} (h : endsBranch cs = false) :
    readItems (fuel + 1) items ⟨cs, {}, groups, names⟩ =
      partsFrom fuel {} groups names items cs := by
  rw [readItems_succ, skip_plain, h]
  rfl

theorem readGroup_opening (fuel : Nat) (cs : List Char) :
    readGroup (fuel + 2) ⟨'?' :: ':' :: cs, {}, 0, []⟩ =
      (readBranches fuel ⟨cs, {}, 0, []⟩).bind fun r => closeFrom none {} r.1 r.2 := by
  have haround : isAround ('?' :: ':' :: cs) = false := rfl
  have hname : afterNameOpening? ('?' :: ':' :: cs) = none := rfl
  rw [readGroup_succ, haround, hname]
  exact readBody_succ fuel none {} ⟨cs, {}, 0, []⟩

def startItem : Item := ⟨.look .textStart, 0, true⟩

def endItem : Item := ⟨.look .textEnd, 0, true⟩

theorem reading_opening (cs : List Char) :
    reading (opening ++ cs) =
      (((reading cs).bind fun r => closeFrom none {} r.1 r.2).bind fun r =>
        readItems (4 * cs.length + 17) [r.1, startItem] r.2).bind fun r =>
          branchesFrom (4 * cs.length + 19) r.1 r.2 := by
  have hstart : readItems (4 * cs.length + 19) [] ⟨opening ++ cs, {}, 0, []⟩ =
      readItems (4 * cs.length + 18) [startItem] ⟨'(' :: '?' :: ':' :: cs, {}, 0, []⟩ :=
    readItems_plain rfl
  have hgroup : readItems (4 * cs.length + 18) [startItem] ⟨'(' :: '?' :: ':' :: cs, {}, 0, []⟩ =
      (readGroup (4 * cs.length + 17) ⟨'?' :: ':' :: cs, {}, 0, []⟩).bind fun r =>
        readItems (4 * cs.length + 17) [r.1, startItem] r.2 :=
    readItems_plain rfl
  show readBranches (4 * cs.length + 20) ⟨opening ++ cs, {}, 0, []⟩ = _
  rw [readBranches_succ, hstart, hgroup, readGroup_opening, reading_eq (by omega)]

theorem strayClose_of_opening {cs : List Char} (hsome : (reading (opening ++ cs)).isSome) :
    StrayClose cs := by
  obtain ⟨r, h⟩ := Option.isSome_iff_exists.mp hsome
  rw [reading_opening] at h
  obtain ⟨_, hparts, -⟩ := Option.bind_eq_some_iff.mp h
  obtain ⟨_, hgroup, -⟩ := Option.bind_eq_some_iff.mp hparts
  obtain ⟨⟨branches, c⟩, hread, hclose⟩ := Option.bind_eq_some_iff.mp hgroup
  unfold closeFrom at hclose
  split at hclose
  · next left hrest => exact ⟨branches, c, left, hread, hrest⟩
  · cases hclose

theorem readItems_end (fuel groups : Nat) (names : List (List Char)) (items : List Item) :
    readItems (fuel + 2) items ⟨['$'], {}, groups, names⟩ =
      some (endItem :: items, ⟨[], {}, groups, names⟩) := by
  rw [readItems_plain rfl]
  exact readItems_succ fuel (endItem :: items) ⟨[], {}, groups, names⟩

theorem reads_enclosed {cs : List Char} {node : Node} {depth : Nat} (hreads : Reads cs node depth)
    (hcloses : Closes cs) : Reads (opening ++ (cs ++ closing)) node.whole (depth + 2) := by
  obtain ⟨⟨branches, c⟩, hread, hrest⟩ := hcloses
  obtain ⟨c', hread', -⟩ := reading_of_closing hread hrest
  obtain ⟨branches', c'', hread'', -, hjoin⟩ := hreads
  rw [hread'] at hread''
  cases hread''
  have hclose : closeFrom none {} branches c =
      some (⟨node, depth + 1, true⟩, ⟨['$'], {}, c.groups, c.names⟩) := by
    rw [show c = ⟨closing, c.flags, c.groups, c.names⟩ from hrest ▸ rfl]
    simp [closeFrom, closing, hjoin]
  refine ⟨[joinItems [endItem, ⟨node, depth + 1, true⟩, startItem]], ⟨[], {}, c.groups, c.names⟩,
    ?_, rfl, ?_⟩
  · rw [reading_opening, hread, Option.bind_some, hclose, Option.bind_some, readItems_end]
    rfl
  · show (Node.whole node, 1 + max (max (max 0 0) (depth + 1)) 0) = _
    rw [Nat.max_zero, Nat.max_self, Nat.zero_max, Nat.add_comm]

/-- What is compiled is read between the tests for the start and the end, or a parenthesis in it
closes the group around it. -/
theorem compile_eq_some {source : String} {p : Pattern} (h : compile source = some p) :
    StrayClose source.toList ∨ Closes source.toList ∧ ∃ node depth,
      Reads source.toList node depth ∧ Fits node.whole (depth + 2) ∧
        p = ⟨source, node.whole⟩ := by
  obtain ⟨tree, htree, rfl⟩ := Option.map_eq_some_iff.mp h
  rw [enclosed_eq] at htree
  obtain ⟨depth', hreads', hfits⟩ := readNode?_eq_some_iff.mp htree
  have hsome : (reading (opening ++ (source.toList ++ closing))).isSome := by
    obtain ⟨_, _, hread, -⟩ := hreads'
    rw [hread]
    rfl
  obtain ⟨branches, c, left, hread, hleft⟩ := strayClose_of_opening hsome
  obtain ⟨c', hread', rfl⟩ := reading_of_closing hread hleft
  replace hleft : c'.rest ++ closing = ')' :: left := hleft
  -- the group is closed by the closing if the pattern by itself is read to its end
  cases hrest : c'.rest with
  | cons d ds =>
    rw [hrest] at hleft
    obtain ⟨rfl, -⟩ := List.cons.inj hleft
    exact .inl ⟨branches, c', ds, hread', hrest⟩
  | nil =>
    have hreads : Reads source.toList (joinBranches branches).1 (joinBranches branches).2 :=
      ⟨branches, c', hread', hrest, rfl⟩
    have hcloses : Closes source.toList := by
      refine ⟨_, hread, ?_⟩
      show c'.rest ++ closing = closing
      rw [hrest, List.nil_append]
    obtain ⟨rfl, rfl⟩ := hreads'.unique (reads_enclosed hreads hcloses)
    exact .inr ⟨hcloses, _, _, hreads, hfits, rfl⟩

theorem compile_of_closes {source : String} {node : Node} {depth : Nat}
    (hreads : Reads source.toList node depth) (hcloses : Closes source.toList)
    (hfits : Fits node.whole (depth + 2)) : compile source = some ⟨source, node.whole⟩ := by
  have hnode : readNode? (enclosed source) = some node.whole := by
    rw [enclosed_eq]
    exact readNode?_eq_some_iff.mpr ⟨depth + 2, reads_enclosed hreads hcloses, hfits⟩
  rw [compile, hnode]
  rfl

theorem Reads.isSome_compile_iff {source : String} {node : Node} {depth : Nat}
    (hreads : Reads source.toList node depth) :
    (compile source).isSome ↔ Closes source.toList ∧ Fits node.whole (depth + 2) := by
  constructor
  · intro hsome
    obtain ⟨p, hp⟩ := Option.isSome_iff_exists.mp hsome
    rcases compile_eq_some hp with hstray | ⟨hcloses, node', depth', hreads', hfits, -⟩
    · exact absurd hstray hreads.not_strayClose
    · obtain ⟨rfl, rfl⟩ := hreads.unique hreads'
      exact ⟨hcloses, hfits⟩
  · rintro ⟨hcloses, hfits⟩
    rw [compile_of_closes hreads hcloses hfits]
    rfl

/-- The compiled pattern means the pattern on the whole value: it is there if the text by itself is
a pattern, a value matches if the tree of that spans all of it, and those values have a key. -/
def Faithful (source : String) : Prop :=
  ((compile source).isSome ↔ (readNode? source.toList).isSome) ∧
  ∀ p node, compile source = some p → readNode? source.toList = some node → ∀ value : String,
    (p.isMatch value = true ↔
      node.Spans value.toList.toArray 0 value.toList.toArray.size) ∧
    ((p.extract value).isSome ↔ p.isMatch value = true)

theorem isMatch_iff_spans {source : String} {p : Pattern} {node : Node}
    (hp : compile source = some p) (hnode : readNode? source.toList = some node) (value : String) :
    p.isMatch value = true ↔
      node.Spans value.toList.toArray 0 value.toList.toArray.size := by
  obtain ⟨depth, hreads, -⟩ := readNode?_eq_some_iff.mp hnode
  rcases compile_eq_some hp with hstray | ⟨-, node', depth', hreads', -, rfl⟩
  · exact absurd hstray hreads.not_strayClose
  · obtain ⟨rfl, rfl⟩ := hreads.unique hreads'
    exact Node.occurs_between value.toList.toArray node

/-- Compiling is faithful to a text if no parenthesis in it closes the group around it so that the
rest is a pattern again, and if what it is by itself ends before the closing and leaves room for the
group and the tests. -/
theorem compile_faithful_iff (source : String) :
    (Faithful source ↔
      (StrayClose source.toList → compile source = none) ∧
      ∀ node depth, Reads source.toList node depth → Fits node depth →
        Closes source.toList ∧ depth + 2 ≤ maxDepth ∧ node.cost + 64 ≤ maxCost) ∧
    ('#' ∉ source.toList → ∀ node depth, Reads source.toList node depth →
      Closes source.toList) := by
  refine ⟨⟨fun hfaithful => ⟨fun hstray => ?_, fun node depth hreads hfits => ?_⟩, ?_⟩,
    fun hcs node depth hreads => hreads.closes hcs⟩
  · refine Option.eq_none_iff_forall_ne_some.mpr fun p hp => ?_
    have hsome := hfaithful.1.mp (by rw [hp]; rfl)
    obtain ⟨node, depth, hreads, -⟩ := isSome_readNode?_iff.mp hsome
    exact hreads.not_strayClose hstray
  · have hsome := isSome_readNode?_iff.mpr ⟨node, depth, hreads, hfits⟩
    obtain ⟨hcloses, hwhole⟩ := hreads.isSome_compile_iff.mp (hfaithful.1.mpr hsome)
    exact ⟨hcloses, fits_whole_iff.mp hwhole⟩
  · rintro ⟨hstray, hroom⟩
    refine ⟨⟨fun hsome => ?_, fun hsome => ?_⟩, fun p node hp hnode value => ⟨?_, ?_⟩⟩
    · obtain ⟨p, hp⟩ := Option.isSome_iff_exists.mp hsome
      rcases compile_eq_some hp with h | ⟨-, node, depth, hreads, hwhole, -⟩
      · rw [hstray h] at hp
        cases hp
      · obtain ⟨hdepth, hcost⟩ := fits_whole_iff.mp hwhole
        have hfits : Fits node depth := ⟨by omega, by omega⟩
        exact isSome_readNode?_iff.mpr ⟨node, depth, hreads, hfits⟩
    · obtain ⟨node, depth, hreads, hfits⟩ := isSome_readNode?_iff.mp hsome
      obtain ⟨hcloses, hwhole⟩ := hroom node depth hreads hfits
      exact hreads.isSome_compile_iff.mpr ⟨hcloses, fits_whole_iff.mpr hwhole⟩
    · exact isMatch_iff_spans hp hnode value
    · rw [isSome_extract]

-- a comment reaches over the closing
example : (readNode? "(?x)a#".toList).isSome ∧ compile "(?x)a#" = none := by decide +kernel

/-- A parenthesis that closes the group around the pattern, and one that opens another group, which
the closing closes: what is compiled is no pattern by itself, and is not bound to whole values. -/
theorem not_faithful_stray_close :
    ¬ Faithful "a)|(?:b" ∧
      (compile "a)|(?:b").any (fun p => p.isMatch "axyz") = true := by
  have halone : readNode? "a)|(?:b".toList = none := by decide +kernel
  have hmatch : (compile "a)|(?:b").any (fun p => p.isMatch "axyz") = true := by decide +kernel
  refine ⟨fun hfaithful => ?_, hmatch⟩
  have hsome := hfaithful.1.mp (Option.isSome_of_any hmatch)
  rw [halone] at hsome
  cases hsome

end InfoModel.Pattern

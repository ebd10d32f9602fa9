import InfoModel.Text.Trim

/-!
# Laws of trimming and cutting

A text is cut where the separator first stands in it, so the part before is free of it and the parts
are given by the whole. A text with no blank at either end is trimmed already. It is divided at a
number of bytes where a part of it has as many.
-/

namespace InfoModel.Text
open InfoModel.Unicode

variable {sep : Char} {cs before after start rest : List Char}

theorem cutFirst_append (h : sep ∉ before) (after : List Char) :
    cutFirst sep (before ++ sep :: after) = some (before, after) := by
  induction before with
  | nil => simp [cutFirst]
  | cons c before ih =>
    rw [List.mem_cons, not_or] at h
    have hne : ¬ c = sep := fun hc => h.1 hc.symm
    rw [List.cons_append, cutFirst, if_neg hne, ih h.2]
    rfl

theorem not_mem_of_cutFirst (h : cutFirst sep cs = some (before, after)) : sep ∉ before := by
  induction cs generalizing before with
  | nil => simp [cutFirst] at h
  | cons c cs ih =>
    unfold cutFirst at h
    by_cases hc : c = sep
    · rw [if_pos hc] at h
      cases h
      exact List.not_mem_nil
    · rw [if_neg hc, Option.map_eq_some_iff] at h
      obtain ⟨p, hp, hparts⟩ := h
      cases hparts
      rw [List.mem_cons, not_or]
      exact ⟨Ne.symm hc, ih hp⟩

theorem cutFirst_eq_some_iff :
    cutFirst sep cs = some (before, after) ↔ cs = before ++ sep :: after ∧ sep ∉ before := by
  constructor
  · exact fun h => ⟨eq_of_cutFirst h, not_mem_of_cutFirst h⟩
  · rintro ⟨rfl, h⟩
    exact cutFirst_append h after

theorem cutFirst_eq_none_iff : cutFirst sep cs = none ↔ sep ∉ cs := by
  constructor
  · intro h hmem
    obtain ⟨before, after, rfl, hbefore⟩ := List.eq_append_cons_of_mem hmem
    rw [cutFirst_append hbefore] at h
    cases h
  · intro h
    cases hcut : cutFirst sep cs with
    | none => rfl
    | some p =>
      have hcs := eq_of_cutFirst hcut
      exact absurd (hcs ▸ List.mem_append_right p.1 List.mem_cons_self) h

/-- A text is cut at every occurrence as lists are split. -/
theorem pieces_eq_splitOn (sep : Char) (cs : List Char) : pieces sep cs = cs.splitOn sep := by
  induction cs with
  | nil => rfl
  | cons c cs ih =>
    rw [List.splitOn_cons_eq_if_modifyHead, ← ih, pieces]
    by_cases hc : c = sep
    · rw [if_pos hc, if_pos (beq_iff_eq.mpr hc)]
    · rw [if_neg hc, if_neg fun h => hc (beq_iff_eq.mp h)]
      obtain ⟨piece, rest, hpieces⟩ := List.exists_cons_of_ne_nil (pieces_ne_nil sep cs)
      rw [hpieces]
      rfl

theorem not_mem_of_mem_pieces {piece : List Char} (h : piece ∈ pieces sep cs) : sep ∉ piece := by
  induction cs generalizing piece with
  | nil =>
    rw [List.mem_singleton.mp h]
    exact List.not_mem_nil
  | cons c cs ih =>
    unfold pieces at h
    by_cases hc : c = sep
    · rw [if_pos hc, List.mem_cons] at h
      rcases h with rfl | h
      · exact List.not_mem_nil
      · exact ih h
    · rw [if_neg hc] at h
      obtain ⟨first, rest, hpieces⟩ := List.exists_cons_of_ne_nil (pieces_ne_nil sep cs)
      rw [hpieces] at h ih
      rcases List.mem_cons.mp h with rfl | h
      · rw [List.mem_cons, not_or]
        exact ⟨Ne.symm hc, ih List.mem_cons_self⟩
      · exact ih (List.mem_cons_of_mem first h)

/-- The pieces are the texts without separators that make up the text with a separator between any
two of them. -/
theorem pieces_eq_iff {parts : List (List Char)} : pieces sep cs = parts ↔
    parts ≠ [] ∧ (∀ part ∈ parts, sep ∉ part) ∧ [sep].intercalate parts = cs := by
  constructor
  · rintro rfl
    refine ⟨pieces_ne_nil sep cs, fun part h => not_mem_of_mem_pieces h, ?_⟩
    rw [pieces_eq_splitOn]
    exact List.intercalate_splitOn sep
  · rintro ⟨hne, hfree, rfl⟩
    rw [pieces_eq_splitOn]
    exact List.splitOn_intercalate sep hfree hne

theorem afterPrefix?_append (start rest : List Char) :
    afterPrefix? start (start ++ rest) = some rest := by
  induction start with
  | nil => rfl
  | cons c start ih => simp [afterPrefix?, ih]

theorem afterPrefix?_eq_none_iff : afterPrefix? start cs = none ↔ ¬ start <+: cs := by
  rw [Option.eq_none_iff_forall_ne_some]
  constructor
  · rintro h ⟨rest, rfl⟩
    exact h rest (afterPrefix?_append start rest)
  · intro h rest hrest
    exact h ⟨rest, (eq_of_afterPrefix? hrest).symm⟩

theorem dropWhile_eq_self (p : Char → Bool) (h : ∀ c ∈ cs.head?, p c = false) :
    cs.dropWhile p = cs := by
  cases cs with
  | nil => rfl
  | cons c cs => exact List.dropWhile_cons_of_neg (by simp [h c rfl])

theorem trimChars_eq_self (hfirst : ∀ c ∈ cs.head?, isBlank c = false)
    (hlast : ∀ c ∈ cs.getLast?, isBlank c = false) : trimChars cs = cs := by
  unfold trimChars
  rw [dropWhile_eq_self isBlank hfirst, dropWhile_eq_self isBlank (by simpa using hlast),
    List.reverse_reverse]

theorem splitAtByte?_eq_some_iff {count : Nat} :
    splitAtByte? count cs = some (start, rest) ↔ cs = start ++ rest ∧ byteCount start = count := by
  constructor
  · intro h
    refine ⟨eq_of_splitAtByte? h, ?_⟩
    fun_induction splitAtByte? count cs generalizing start rest with
    | case1 cs =>
      cases h
      rfl
    | case2 count => cases h
    | case3 count c cs hc ih =>
      obtain ⟨p, hp, heq⟩ := Option.map_eq_some_iff.mp h
      cases heq
      have htail := ih hp
      unfold byteCount
      omega
    | case4 count c cs hc => cases h
  · rintro ⟨rfl, rfl⟩
    induction start with
    | nil => simp [byteCount, splitAtByte?]
    | cons c start ih =>
      have hpos := c.utf8Size_pos
      obtain ⟨count, hcount⟩ : ∃ count, c.utf8Size + byteCount start = count + 1 :=
        ⟨c.utf8Size + byteCount start - 1, by omega⟩
      have hleft : count + 1 - c.utf8Size = byteCount start := by omega
      unfold byteCount
      rw [hcount, List.cons_append, splitAtByte?, if_pos (by omega), hleft, ih]
      rfl

theorem ne_nil_of_byteCount {n : Nat} (h : byteCount cs = n + 1) : cs ≠ [] := by
  rintro rfl
  cases h

end InfoModel.Text

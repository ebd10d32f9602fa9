import InfoModel.Unicode.Age
import InfoModel.Unicode.Break
import InfoModel.Unicode.Script
import InfoModel.Unicode.ScriptExtension
import InfoModel.Unicode.Property
import InfoModel.Proofs.Text.Cut
import Mathlib.Data.String.Basic

/-!
# The tables of code points as they are written

Every item of the tables is a number in hexadecimal digits or an interval whose first end is no
larger than its last, so no row breaks off inside an item. A row is read as a list of characters,
once from its start to its end. Main statement: `Unicode.tables_written`.
-/

namespace InfoModel
open InfoModel.Text InfoModel.Unicode

/-- What is cut off from `start` on, when `held` has been read since the last separator. -/
theorem splitOnAux_eq (sep : Char) (start held rest : List Char) (done : List String) :
    (String.ofList (start ++ held ++ rest)).splitOnAux (String.ofList [sep])
        ⟨String.utf8Len start⟩ ⟨String.utf8Len (start ++ held)⟩ 0 done
      = done.reverse ++ ((pieces sep rest).modifyHead (held ++ ·)).map String.ofList := by
  induction rest generalizing start held done with
  | nil =>
    have hend := (String.atEnd_of_valid (start ++ held) []).mpr rfl
    rw [String.splitOnAux.eq_1, if_pos hend]
    have hextract := String.extract_of_valid start held []
    rw [← String.utf8Len_append] at hextract
    rw [hextract]
    simp [pieces]
  | cons c rest ih =>
    have hend : ¬ String.Pos.Raw.atEnd (String.ofList (start ++ held ++ c :: rest))
        ⟨String.utf8Len (start ++ held)⟩ = true := by
      rw [String.atEnd_of_valid]
      exact List.cons_ne_nil c rest
    have hget := String.get_of_valid (start ++ held) (c :: rest)
    have hnext := String.next_of_valid (start ++ held) c rest
    have hsep : String.Pos.Raw.get (String.ofList [sep]) 0 = sep := String.get_of_valid [] [sep]
    rw [String.splitOnAux.eq_1, if_neg hend, hget, hsep, hnext]
    by_cases hc : c = sep
    · subst hc
      have hnextSep : String.Pos.Raw.next (String.ofList [c]) 0 = ⟨String.utf8Len [c]⟩ := by
        simpa using String.next_of_valid [] c []
      have hendSep : String.Pos.Raw.atEnd (String.ofList [c]) ⟨String.utf8Len [c]⟩ = true :=
        (String.atEnd_of_valid [c] []).mpr rfl
      have hback : String.Pos.Raw.unoffsetBy ⟨String.utf8Len (start ++ held) + c.utf8Size⟩
          ⟨String.utf8Len [c]⟩ = ⟨String.utf8Len (start ++ held)⟩ := by
        simp [String.Pos.Raw.unoffsetBy]
      have hextract := String.extract_of_valid start held (c :: rest)
      rw [← String.utf8Len_append] at hextract
      have hgo := ih (start ++ held ++ [c]) [] (String.ofList held :: done)
      simp only [List.append_nil, List.append_assoc, List.singleton_append] at hgo
      have hlen : String.utf8Len (start ++ held) + c.utf8Size
          = String.utf8Len (start ++ (held ++ [c])) := by simp [Nat.add_assoc]
      simp only [List.headD_cons, beq_self_eq_true, if_true, hnextSep, hendSep, hback, hextract]
      have hid : (pieces c rest).modifyHead ([] ++ ·) = pieces c rest :=
        congrFun List.modifyHead_id (pieces c rest)
      rw [hlen, List.append_assoc, hgo, hid]
      simp [pieces]
    · have hgo := ih start (held ++ [c]) done
      have hback : String.Pos.Raw.unoffsetBy ⟨String.utf8Len (start ++ held)⟩ 0
          = ⟨String.utf8Len (start ++ held)⟩ := rfl
      simp only [List.headD_cons, beq_iff_eq, hc, if_false, hback, hnext]
      simp only [List.append_assoc, List.singleton_append] at hgo
      have hlen : String.utf8Len (start ++ held) + c.utf8Size
          = String.utf8Len (start ++ (held ++ [c])) := by simp [Nat.add_assoc]
      rw [hlen, List.append_assoc, hgo]
      obtain ⟨piece, more, hpieces⟩ := List.exists_cons_of_ne_nil (pieces_ne_nil sep rest)
      simp [pieces, hc, hpieces]

theorem splitOn_ofList (sep : Char) (cs : List Char) :
    (String.ofList cs).splitOn (String.ofList [sep]) = (pieces sep cs).map String.ofList := by
  have hsep : (String.ofList [sep] == "") = false := by
    simp
  unfold String.splitOn
  rw [hsep]
  obtain ⟨piece, more, hpieces⟩ := List.exists_cons_of_ne_nil (pieces_ne_nil sep cs)
  have h := splitOnAux_eq sep [] [] cs []
  simpa [hpieces] using h

def hexNumber (cs : List Char) : Nat := cs.foldl (fun n c => n * 16 + CodeSet.hexDigit c) 0

def itemInterval (cs : List Char) : Nat × Nat :=
  match pieces '-' cs with
  | [lo, hi] => (hexNumber lo, hexNumber hi)
  | _ => (hexNumber cs, hexNumber cs)

theorem hexValue_ofList (cs : List Char) : CodeSet.hexValue (String.ofList cs) = hexNumber cs := by
  unfold CodeSet.hexValue hexNumber
  rw [String.toList_ofList]

theorem intervalOf_ofList (cs : List Char) :
    CodeSet.intervalOf (String.ofList cs) = itemInterval cs := by
  unfold CodeSet.intervalOf itemInterval
  have hsep : "-" = String.ofList ['-'] := rfl
  rw [hsep, splitOn_ofList]
  match pieces '-' cs with
  | [] => simp [hexValue_ofList]
  | [_] => simp [hexValue_ofList]
  | [_, _] => simp [hexValue_ofList]
  | _ :: _ :: _ :: _ => simp [hexValue_ofList]

namespace Unicode
variable {lo n : Option Nat} {held cs : List Char} {c : Char}

def isTableDigit (c : Char) : Bool := ('0' ≤ c && c ≤ '9') || ('A' ≤ c && c ≤ 'F')

def IsDigits (cs : List Char) : Prop := cs ≠ [] ∧ ∀ c ∈ cs, isTableDigit c = true

/-- An item is a number, or the two ends of an interval joined by a minus sign. -/
structure IsItem (item : String) : Prop where
  digits : ∀ part ∈ item.splitOn "-", IsDigits part.toList
  ends : (item.splitOn "-").length ≤ 2
  ordered : (CodeSet.intervalOf item).1 ≤ (CodeSet.intervalOf item).2

theorem IsDigits.not_mem (h : IsDigits cs) : '-' ∉ cs := by
  intro hmem
  exact absurd (h.2 _ hmem) (by decide)

theorem IsDigits.concat (h : IsDigits cs) (hc : isTableDigit c = true) : IsDigits (cs ++ [c]) := by
  refine ⟨by simp, fun d hd => ?_⟩
  rcases List.mem_append.mp hd with hd | hd
  · exact h.2 d hd
  · rwa [List.mem_singleton.mp hd]

theorem isDigits_singleton (hc : isTableDigit c = true) : IsDigits [c] := by
  refine ⟨List.cons_ne_nil c [], fun d hd => ?_⟩
  rwa [List.mem_singleton.mp hd]

theorem hexNumber_concat (cs : List Char) (c : Char) :
    hexNumber (cs ++ [c]) = hexNumber cs * 16 + CodeSet.hexDigit c := by
  simp [hexNumber]

theorem pieces_of_digits {parts : List (List Char)} (hne : parts ≠ [])
    (hparts : ∀ part ∈ parts, IsDigits part) : pieces '-' (['-'].intercalate parts) = parts :=
  pieces_eq_iff.mpr ⟨hne, fun part hpart => (hparts part hpart).not_mem, rfl⟩

theorem isItem_of_pieces {parts : List (List Char)} (hpieces : pieces '-' cs = parts)
    (hparts : ∀ part ∈ parts, IsDigits part) (hends : parts.length ≤ 2)
    (hle : (itemInterval cs).1 ≤ (itemInterval cs).2) : IsItem (String.ofList cs) := by
  have hsplit : (String.ofList cs).splitOn "-" = parts.map String.ofList := by
    have hsep : "-" = String.ofList ['-'] := rfl
    rw [hsep, splitOn_ofList, hpieces]
  refine ⟨?_, ?_, ?_⟩
  · rw [hsplit]
    intro part hpart
    obtain ⟨digits, hdigits, rfl⟩ := List.mem_map.mp hpart
    rw [String.toList_ofList]
    exact hparts digits hdigits
  · rwa [hsplit, List.length_map]
  · rwa [intervalOf_ofList]

theorem isItem_number (h : IsDigits cs) : IsItem (String.ofList cs) := by
  have hparts : ∀ part ∈ [cs], IsDigits part := by simpa using h
  have hpieces : pieces '-' cs = [cs] := by
    simpa using pieces_of_digits (List.cons_ne_nil cs []) hparts
  refine isItem_of_pieces hpieces hparts (Nat.le_succ 1) ?_
  rw [itemInterval, hpieces]

theorem isItem_interval {first last : List Char} (hfirst : IsDigits first) (hlast : IsDigits last)
    (hle : hexNumber first ≤ hexNumber last) :
    IsItem (String.ofList (first ++ '-' :: last)) := by
  have hparts : ∀ part ∈ [first, last], IsDigits part := by simp [hfirst, hlast]
  have hpieces : pieces '-' (first ++ '-' :: last) = [first, last] := by
    simpa using pieces_of_digits (List.cons_ne_nil first [last]) hparts
  refine isItem_of_pieces hpieces hparts (Nat.le_refl 2) ?_
  rw [itemInterval, hpieces]
  exact hle

/-- Whether an item may end where `lo` has been read in front of its minus sign, if it has one, and
`n` since. -/
def endsItem : Option Nat → Option Nat → Bool
  | none, some _ => true
  | some lo, some n => lo ≤ n
  | _, none => false

/-- Whether items stand in a row, the first of which has been read up to `lo` and `n`. -/
def readsItems (lo n : Option Nat) : List Char → Bool
  | [] => endsItem lo n
  | c :: cs =>
    if c = ' ' then endsItem lo n && readsItems none none cs
    else if c = '-' then lo.isNone && n.isSome && readsItems n none cs
    else isTableDigit c && readsItems lo (some (n.getD 0 * 16 + CodeSet.hexDigit c)) cs

/-- What has been read of an item. -/
inductive Held : Option Nat → Option Nat → List Char → Prop where
  | start : Held none none []
  | number {cs : List Char} : IsDigits cs → Held none (some (hexNumber cs)) cs
  | minus {first : List Char} : IsDigits first → Held (some (hexNumber first)) none (first ++ ['-'])
  | interval {first last : List Char} : IsDigits first → IsDigits last →
      Held (some (hexNumber first)) (some (hexNumber last)) (first ++ '-' :: last)

theorem Held.digit (h : Held lo n held) (hc : isTableDigit c = true) :
    Held lo (some (n.getD 0 * 16 + CodeSet.hexDigit c)) (held ++ [c]) := by
  have hsingle : hexNumber [c] = 0 * 16 + CodeSet.hexDigit c := hexNumber_concat [] c
  cases h with
  | start =>
    rw [Option.getD_none, ← hsingle]
    exact .number (isDigits_singleton hc)
  | number hcs =>
    rw [Option.getD_some, ← hexNumber_concat]
    exact .number (hcs.concat hc)
  | minus hfirst =>
    rw [Option.getD_none, ← hsingle, List.append_assoc]
    exact .interval hfirst (isDigits_singleton hc)
  | interval hfirst hlast =>
    rw [Option.getD_some, ← hexNumber_concat, List.append_assoc]
    exact .interval hfirst (hlast.concat hc)

theorem Held.isItem (h : Held lo n held) (hend : endsItem lo n = true) :
    IsItem (String.ofList held) := by
  cases h with
  | start => cases hend
  | number hcs => exact isItem_number hcs
  | minus hfirst => cases hend
  | interval hfirst hlast => exact isItem_interval hfirst hlast (of_decide_eq_true hend)

theorem pieces_cons_of_ne {sep : Char} (hc : c ≠ sep) (cs : List Char) :
    pieces sep (c :: cs) = (pieces sep cs).modifyHead (c :: ·) := by
  obtain ⟨piece, more, hpieces⟩ := List.exists_cons_of_ne_nil (pieces_ne_nil sep cs)
  simp [pieces, hc, hpieces]

theorem modifyHead_nil_append (parts : List (List Char)) : parts.modifyHead ([] ++ ·) = parts :=
  congrFun List.modifyHead_id parts

-- by induction on the rest of the row, with what has been read of the item at hand carried along
theorem isItem_of_readsItems (hreads : readsItems lo n cs = true) (hheld : Held lo n held) :
    ∀ item ∈ (pieces ' ' cs).modifyHead (held ++ ·), IsItem (String.ofList item) := by
  induction cs generalizing lo n held with
  | nil =>
    intro item hitem
    have heq : item = held ++ [] := List.mem_singleton.mp hitem
    rw [heq, List.append_nil]
    exact hheld.isItem hreads
  | cons c cs ih =>
    have hgrown {digitOrMinus : Char} (hne : digitOrMinus ≠ ' ') :
        (pieces ' ' (digitOrMinus :: cs)).modifyHead (held ++ ·)
          = (pieces ' ' cs).modifyHead (held ++ [digitOrMinus] ++ ·) := by
      rw [pieces_cons_of_ne hne, List.modifyHead_modifyHead]
      congr 1
      funext piece
      simp
    unfold readsItems at hreads
    by_cases hblank : c = ' '
    · subst hblank
      rw [if_pos rfl, Bool.and_eq_true] at hreads
      intro item hitem
      have hcut : (pieces ' ' (' ' :: cs)).modifyHead (held ++ ·) = held :: pieces ' ' cs := by
        simp [pieces]
      rw [hcut, List.mem_cons] at hitem
      rcases hitem with rfl | hitem
      · exact hheld.isItem hreads.1
      · refine ih hreads.2 .start item ?_
        rwa [modifyHead_nil_append]
    · rw [if_neg hblank] at hreads
      rw [hgrown hblank]
      by_cases hminus : c = '-'
      · subst hminus
        simp only [if_true, Bool.and_eq_true] at hreads
        obtain ⟨⟨hlo, hn⟩, hrest⟩ := hreads
        cases hheld with
        | start => cases hn
        | number hcs => exact ih hrest (.minus hcs)
        | minus _ => cases hlo
        | interval _ _ => cases hlo
      · rw [if_neg hminus, Bool.and_eq_true] at hreads
        exact ih hreads.2 (hheld.digit hreads.1)

def tables : List (List NamedSet) :=
  [ages, categories, properties, scripts, scriptUses, graphemeBreaks, wordBreaks, sentenceBreaks]

theorem isItem_of_row {row : List Char} (h : readsItems none none row = true) :
    ∀ item ∈ (String.ofList row).splitOn " ", IsItem item := by
  intro item hitem
  have hsep : " " = String.ofList [' '] := rfl
  rw [hsep, splitOn_ofList] at hitem
  obtain ⟨piece, hpiece, rfl⟩ := List.mem_map.mp hitem
  refine isItem_of_readsItems h .start piece ?_
  rwa [modifyHead_nil_append]

/-- The rows of a set, and the characters of each. -/
inductive Spelled : List String → List (List Char) → Prop where
  | nil : Spelled [] []
  | cons {row : List Char} {rows : List String} {spelled : List (List Char)} :
      Spelled rows spelled → Spelled (String.ofList row :: rows) (row :: spelled)

theorem Spelled.isItem {rows : List String} {spelled : List (List Char)} (h : Spelled rows spelled)
    (hreads : spelled.all (readsItems none none) = true) :
    ∀ row ∈ rows, ∀ item ∈ row.splitOn " ", IsItem item := by
  induction h with
  | nil => exact fun row hrow => absurd hrow List.not_mem_nil
  | cons _ ih =>
    rw [List.all_cons, Bool.and_eq_true] at hreads
    exact List.forall_mem_cons.mpr ⟨isItem_of_row hreads.1, ih hreads.2⟩

-- set by set, since a text of the size of a table is too long to be evaluated
theorem tables_written :
    ∀ table ∈ tables, ∀ s ∈ table, ∀ row ∈ s.rows, ∀ item ∈ row.splitOn " ", IsItem item := by
  intro table htable
  simp only [tables, List.mem_cons, List.not_mem_nil, or_false] at htable
  rcases htable with rfl | rfl | rfl | rfl | rfl | rfl | rfl | rfl
  all_goals
    repeat
      refine List.forall_mem_cons.mpr ⟨?_, ?_⟩
      · apply Spelled.isItem
        · repeat with_reducible apply Spelled.cons
          exact Spelled.nil
        · decide +kernel
    exact List.forall_mem_nil _

end Unicode
end InfoModel

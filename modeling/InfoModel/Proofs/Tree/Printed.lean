import InfoModel.Proofs.Tree.Written
import InfoModel.Tree.Printer

/-!
# Documents that the writer makes

What the writer makes of a tree is a document that writes it, and is read as the same tree, as far
as the numbers in the tree are integers of at most 64 bits. Main statement: `Tree.ofText?_toText`.
-/

namespace InfoModel.Tree
open Text

mutual

/-- Whether all numbers in the tree are integers of at most 64 bits. -/
def isExact : Tree → Bool
  | .null | .bool _ | .text _ => true
  | .integer n => decide (FitsWord n)
  | .real _ => false
  | .list items => areExact items
  | .record entries => haveExact entries

def areExact : List Tree → Bool
  | [] => true
  | t :: ts => isExact t && areExact ts

def haveExact : List (String × Tree) → Bool
  | [] => true
  | (_, t) :: es => isExact t && haveExact es

end

theorem readEscape_fourDigits {n : Nat} (h : n < 32) :
    readEscape ('u' :: (fourDigits n).toList) = some (Char.ofNat n, []) := by
  have hall : ∀ n < 32, readEscape ('u' :: (fourDigits n).toList) = some (Char.ofNat n, []) := by
    decide
  exact hall n h

theorem writtenText_escaped (c : Char) {s cs : List Char} (rest : WrittenText s cs) :
    WrittenText (c :: s) ((escaped c).toList ++ cs) := by
  have hescape : ∀ e : Char, readEscape [e] = some (c, []) →
      WrittenText (c :: s) ('\\' :: ([e] ++ cs)) := fun e he => .escaped he rest
  unfold escaped
  split
  · exact hescape '"' rfl
  · exact hescape '\\' rfl
  · exact hescape 'n' rfl
  · exact hescape 't' rfl
  · exact hescape 'r' rfl
  · next hquote hbackslash _ _ _ =>
    split
    · next hcontrol =>
      have hread := readEscape_fourDigits hcontrol
      rw [Char.ofNat_toNat] at hread
      rw [String.toList_append]
      exact .escaped hread rest
    · next hprinted =>
      rw [String.toList_ofList]
      exact .plain hquote hbackslash (Nat.not_lt.mp hprinted) rest

theorem toList_writtenText (s : String) :
    ∃ cs, (writtenText s).toList = '"' :: cs ∧ WrittenText s.toList cs := by
  have hcharacters : ∀ cs : List Char, WrittenText cs
      ((String.join (cs.map escaped)).toList ++ ['"']) := by
    intro cs
    induction cs with
    | nil => exact .close
    | cons c cs ih =>
      rw [List.map_cons, String.join_cons, String.toList_append, List.append_assoc]
      exact writtenText_escaped c ih
  unfold writtenText
  rw [String.toList_append, String.toList_append]
  exact ⟨_, rfl, hcharacters s.toList⟩

theorem written_text (s : String) : Written (.text s) (writtenText s).toList := by
  obtain ⟨cs, hcs, hs⟩ := toList_writtenText s
  rw [hcs]
  exact .text hs

theorem written_integer {n : Int} (h : FitsWord n) : Written (.integer n) (intText n).toList :=
  .number (readNumber_intText h)

theorem spaced_self (cs : List Char) : Spaced cs cs :=
  ⟨[], [], fun _ h => (nomatch h), fun _ h => (nomatch h), by simp⟩

mutual

/-- The writer follows the grammar. -/
theorem written_toText : ∀ {t : Tree}, t.isExact = true → Written t t.toText.toList
  | .null, _ => .null
  | .bool b, _ => .bool b
  | .integer n, h => by
    unfold isExact at h
    exact written_integer (of_decide_eq_true h)
  | .text s, _ => written_text s
  | .list items, h => by
    unfold isExact at h
    have hitems := writtenItems_itemsText h
    unfold toText
    rw [String.toList_append, String.toList_append]
    cases items with
    | nil => exact @Written.noItems [] nofun
    | cons t ts => exact .items (hitems (List.cons_ne_nil t ts))
  | .record entries, h => by
    unfold isExact at h
    have hentries := writtenEntries_entriesText h
    unfold toText
    rw [String.toList_append, String.toList_append]
    cases entries with
    | nil => exact @Written.noEntries [] nofun
    | cons e es => exact .entries (hentries (List.cons_ne_nil e es))

theorem writtenItems_itemsText : ∀ {ts : List Tree}, areExact ts = true → ts ≠ [] →
    WrittenItems ts (itemsText ts).toList
  | [], _, h => absurd rfl h
  | [t], h, _ => by
    unfold areExact at h
    rw [Bool.and_eq_true] at h
    exact .one (written_toText h.1) (spaced_self _)
  | t :: u :: ts, h, _ => by
    unfold areExact at h
    rw [Bool.and_eq_true] at h
    have hrest := writtenItems_itemsText h.2 (List.cons_ne_nil u ts)
    unfold itemsText
    rw [String.toList_append, String.toList_append, List.append_assoc]
    exact .more (written_toText h.1) (spaced_self _) hrest

theorem writtenEntries_entriesText : ∀ {es : List (String × Tree)}, haveExact es = true →
    es ≠ [] → WrittenEntries es (entriesText es).toList
  | [], _, h => absurd rfl h
  | [(key, t)], h, _ => by
    unfold haveExact at h
    rw [Bool.and_eq_true] at h
    obtain ⟨cs, hcs, hkey⟩ := toList_writtenText key
    unfold entriesText
    rw [String.toList_append, String.toList_append, hcs, List.append_assoc]
    exact .one hkey (spaced_self _) (written_toText h.1) (spaced_self _)
  | (key, t) :: e :: es, h, _ => by
    unfold haveExact at h
    rw [Bool.and_eq_true] at h
    have hrest := writtenEntries_entriesText h.2 (List.cons_ne_nil e es)
    obtain ⟨cs, hcs, hkey⟩ := toList_writtenText key
    unfold entriesText
    simp only [String.toList_append, hcs, List.append_assoc]
    exact .more hkey (spaced_self _) (written_toText h.1) (spaced_self _) hrest

end

theorem writes_toText {t : Tree} (h : t.isExact = true) : Writes t t.toText :=
  ⟨_, written_toText h, spaced_self _⟩

/-- A tree with no numbers but integers of at most 64 bits is read as it is written. -/
theorem ofText?_toText {t : Tree} (h : t.isExact = true) : ofText? t.toText = some t :=
  ofText?_of_writes (writes_toText h)

end InfoModel.Tree

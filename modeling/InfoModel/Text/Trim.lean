import InfoModel.Unicode.Letter

/-!
# Trimming and cutting text

Texts are read as lists of characters. Trimming removes white space from both ends; cutting divides
a text at the first occurrence of a character, or at every occurrence.
-/

namespace InfoModel.Text
open InfoModel.Unicode

def trimChars (cs : List Char) : List Char :=
  ((cs.dropWhile isBlank).reverse.dropWhile isBlank).reverse

def trim (s : String) : String := String.ofList (trimChars s.toList)

/-- The parts before and after the first `sep`, if there is one. -/
def cutFirst (sep : Char) : List Char → Option (List Char × List Char)
  | [] => none
  | c :: cs =>
    if c = sep then some ([], cs)
    else (cutFirst sep cs).map fun (before, after) => (c :: before, after)

theorem eq_of_cutFirst {sep : Char} {cs before after : List Char}
    (h : cutFirst sep cs = some (before, after)) : cs = before ++ sep :: after := by
  induction cs generalizing before after with
  | nil => simp [cutFirst] at h
  | cons c cs ih =>
    by_cases hc : c = sep
    · simp [cutFirst, hc] at h
      simp [hc, ← h.1, h.2]
    · simp only [cutFirst, hc, if_false, Option.map_eq_some_iff] at h
      obtain ⟨p, hp, he⟩ := h
      cases he
      simp [← ih hp]

/-- The pieces between the occurrences of `sep`; there is always at least one. -/
def pieces (sep : Char) : List Char → List (List Char)
  | [] => [[]]
  | c :: cs =>
    if c = sep then [] :: pieces sep cs
    else match pieces sep cs with
      | [] => [[c]]
      | piece :: rest => (c :: piece) :: rest

theorem pieces_ne_nil (sep : Char) (cs : List Char) : pieces sep cs ≠ [] := by
  induction cs with
  | nil => simp [pieces]
  | cons c cs ih =>
    by_cases hc : c = sep
    · simp [pieces, hc]
    · simp only [pieces, hc, if_false]
      split <;> simp

def afterPrefix? : List Char → List Char → Option (List Char)
  | [], cs => some cs
  | _ :: _, [] => none
  | p :: ps, c :: cs => if p = c then afterPrefix? ps cs else none

theorem eq_of_afterPrefix? {start cs rest : List Char} (h : afterPrefix? start cs = some rest) :
    cs = start ++ rest := by
  induction start generalizing cs with
  | nil => simpa [afterPrefix?] using h
  | cons p ps ih =>
    cases cs with
    | nil => simp [afterPrefix?] at h
    | cons c cs =>
      by_cases hp : p = c
      · simp only [afterPrefix?, hp, if_true] at h
        simp [hp, ih h]
      · simp [afterPrefix?, hp] at h

def byteCount : List Char → Nat
  | [] => 0
  | c :: cs => c.utf8Size + byteCount cs

theorem byteCount_append (a b : List Char) : byteCount (a ++ b) = byteCount a + byteCount b := by
  induction a with
  | nil => simp [byteCount]
  | cons c a ih => simp [byteCount, ih, Nat.add_assoc]

/-- The text divided after its first `count` bytes, if no character is cut by that. -/
def splitAtByte? : (count : Nat) → List Char → Option (List Char × List Char)
  | 0, cs => some ([], cs)
  | _ + 1, [] => none
  | count + 1, c :: cs =>
    if c.utf8Size ≤ count + 1 then
      (splitAtByte? (count + 1 - c.utf8Size) cs).map fun (front, rest) => (c :: front, rest)
    else none

theorem eq_of_splitAtByte? {count : Nat} {cs front rest : List Char}
    (h : splitAtByte? count cs = some (front, rest)) : cs = front ++ rest := by
  fun_induction splitAtByte? count cs generalizing front rest with
  | case1 cs => simp_all
  | case2 => simp at h
  | case3 count c cs hc ih =>
    simp only [Option.map_eq_some_iff] at h
    obtain ⟨p, hp, he⟩ := h
    cases he
    simp [← ih hp]
  | case4 => simp at h

end InfoModel.Text

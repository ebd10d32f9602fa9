import InfoModel.Pattern.Basic
import Mathlib.Data.List.Nodup
import Mathlib.Data.List.Perm.Subperm

/-!
# What a tree means

A tree spans the text between two positions if the characters there are of the form that it
describes. The positions that matching reaches from others are those that the tree spans. Main
statements: `Node.mem_ends_iff`, `Node.occurs_between`.
-/

namespace InfoModel.Pattern
open InfoModel.Unicode

/-- The relation holds from step to step, `count` times. -/
def Steps (R : Nat → Nat → Prop) : (count : Nat) → Nat → Nat → Prop
  | 0, i, j => i = j
  | count + 1, i, j => ∃ k, R i k ∧ Steps R count k j

theorem steps_add {R : Nat → Nat → Prop} {m n i j : Nat} :
    Steps R (m + n) i j ↔ ∃ k, Steps R m i k ∧ Steps R n k j := by
  induction m generalizing i with
  | zero => simp [Steps]
  | succ m ih =>
    rw [Nat.succ_add]
    constructor
    · rintro ⟨k, hk, h⟩
      obtain ⟨l, hl, h⟩ := ih.mp h
      exact ⟨l, ⟨k, hk, hl⟩, h⟩
    · rintro ⟨l, ⟨k, hk, hl⟩, h⟩
      exact ⟨k, hk, ih.mpr ⟨l, hl, h⟩⟩

theorem steps_mem {R : Nat → Nat → Prop} {known : List Nat}
    (hclosed : ∀ i ∈ known, ∀ j, R i j → j ∈ known) {count i j : Nat} (hi : i ∈ known)
    (h : Steps R count i j) : j ∈ known := by
  induction count generalizing i with
  | zero => exact h ▸ hi
  | succ count ih =>
    obtain ⟨k, hk, h⟩ := h
    exact ih (hclosed i hi k hk) h

structure Positions (length : Nat) (is : List Nat) : Prop where
  nodup : is.Nodup
  le : ∀ i ∈ is, i ≤ length

theorem Positions.length_le {length : Nat} {is : List Nat} (h : Positions length is) :
    is.length ≤ length + 1 := by
  have hsub : is.Subperm (List.range (length + 1)) :=
    List.subperm_of_subset h.nodup fun i hi => List.mem_range.mpr (Nat.lt_succ_of_le (h.le i hi))
  simpa using hsub.length_le

/-- The function takes positions to those that they are related to. -/
structure Advances (length : Nat) (advance : List Nat → List Nat) (R : Nat → Nat → Prop) :
    Prop where
  positions : ∀ {is}, Positions length is → Positions length (advance is)
  mem_iff : ∀ {is}, Positions length is → ∀ j, j ∈ advance is ↔ ∃ i ∈ is, R i j

theorem mem_fresh {known found : List Nat} {i : Nat} :
    i ∈ fresh known found ↔ i ∈ found ∧ i ∉ known := by
  simp [fresh]

theorem Positions.append_fresh {length : Nat} {known found : List Nat}
    (hknown : Positions length known) (hfound : Positions length found) :
    Positions length (known ++ fresh known found) := by
  refine ⟨?_, ?_⟩
  · refine List.nodup_append.mpr ⟨hknown.nodup, hfound.nodup.filter _, ?_⟩
    rintro i hi j hj rfl
    exact (mem_fresh.mp hj).2 hi
  · intro i hi
    rcases List.mem_append.mp hi with hi | hi
    · exact hknown.le i hi
    · exact hfound.le i (mem_fresh.mp hi).1

namespace Advances
variable {length : Nat} {advance advance' : List Nat → List Nat} {R S : Nat → Nat → Prop}

theorem comp (h : Advances length advance R) (h' : Advances length advance' S) :
    Advances length (fun is => advance' (advance is)) fun i j => ∃ k, R i k ∧ S k j := by
  refine ⟨fun his => h'.positions (h.positions his), fun his j => ?_⟩
  rw [h'.mem_iff (h.positions his)]
  simp only [h.mem_iff his]
  constructor
  · rintro ⟨k, ⟨i, hi, hk⟩, hj⟩
    exact ⟨i, hi, k, hk, hj⟩
  · rintro ⟨i, hi, k, hk, hj⟩
    exact ⟨k, ⟨i, hi, hk⟩, hj⟩

theorem merged (h : Advances length advance R) (h' : Advances length advance' S) :
    Advances length (fun is => merged (advance is) (advance' is)) fun i j => R i j ∨ S i j := by
  refine ⟨fun his => (h.positions his).append_fresh (h'.positions his), fun {is} his j => ?_⟩
  have hmem : j ∈ Pattern.merged (advance is) (advance' is) ↔ j ∈ advance is ∨ j ∈ advance' is := by
    unfold Pattern.merged
    rw [List.mem_append, mem_fresh]
    tauto
  rw [hmem, h.mem_iff his, h'.mem_iff his]
  constructor
  · rintro (⟨i, hi, hj⟩ | ⟨i, hi, hj⟩)
    · exact ⟨i, hi, .inl hj⟩
    · exact ⟨i, hi, .inr hj⟩
  · rintro ⟨i, hi, hj | hj⟩
    · exact .inl ⟨i, hi, hj⟩
    · exact .inr ⟨i, hi, hj⟩

theorem inRounds (h : Advances length advance R) (count : Nat) :
    Advances length (inRounds advance count) (Steps R count) := by
  have hstep : ∀ count is, Pattern.inRounds advance (count + 1) is =
      if is = [] then [] else Pattern.inRounds advance count (advance is) := by
    intro count is
    cases is with
    | nil => rfl
    | cons i is => rfl
  induction count with
  | zero => exact ⟨id, fun _ j => by simp [Pattern.inRounds, Steps]⟩
  | succ count ih =>
    refine ⟨fun {is} his => ?_, fun {is} his j => ?_⟩
    · rw [hstep]
      split
      · exact ⟨List.nodup_nil, fun i hi => absurd hi List.not_mem_nil⟩
      · exact ih.positions (h.positions his)
    · rw [hstep]
      split
      · next hnil => simp [hnil]
      · exact (h.comp ih).mem_iff his j

/-- Some positions are known, and only from the recent ones of them it is not known yet where they
lead. -/
structure Front (length : Nat) (R : Nat → Nat → Prop) (known recent : List Nat) : Prop where
  ofKnown : Positions length known
  ofRecent : Positions length recent
  mem : ∀ i ∈ recent, i ∈ known
  done : ∀ i ∈ known, i ∉ recent → ∀ j, R i j → j ∈ known

variable {known recent : List Nat}

theorem mem_append_fresh (h : Advances length advance R) (hfront : Front length R known recent)
    {j : Nat} : j ∈ known ++ fresh known (advance recent) ↔ j ∈ known ∨ ∃ i ∈ recent, R i j := by
  rw [List.mem_append, mem_fresh, h.mem_iff hfront.ofRecent]
  tauto

theorem front_step (h : Advances length advance R) (hfront : Front length R known recent) :
    Front length R (known ++ fresh known (advance recent)) (fresh known (advance recent)) := by
  have hfound := h.positions hfront.ofRecent
  refine ⟨hfront.ofKnown.append_fresh hfound, ⟨hfound.nodup.filter _, ?_⟩, ?_, ?_⟩
  · exact fun i hi => hfound.le i (mem_fresh.mp hi).1
  · exact fun i hi => List.mem_append_right known hi
  · intro i hi hnew j hj
    have hknown : i ∈ known := (List.mem_append.mp hi).resolve_right hnew
    refine (h.mem_append_fresh hfront).mpr ?_
    by_cases hrecent : i ∈ recent
    · exact .inr ⟨i, hrecent, hj⟩
    · exact .inl (hfront.done i hknown hrecent j hj)

theorem withinRounds_cons (advance : List Nat → List Nat) (count : Nat) (known : List Nat) (i : Nat)
    (is : List Nat) :
    withinRounds advance (count + 1) known (i :: is) =
      withinRounds advance count (known ++ fresh known (advance (i :: is)))
        (fresh known (advance (i :: is))) := rfl

theorem positions_withinRounds (h : Advances length advance R) {count : Nat}
    (hfront : Front length R known recent) :
    Positions length (withinRounds advance count known recent) := by
  induction count generalizing known recent with
  | zero => exact hfront.ofKnown
  | succ count ih =>
    cases recent with
    | nil => exact hfront.ofKnown
    | cons i is => exact ih (h.front_step hfront)

theorem steps_of_mem_withinRounds (h : Advances length advance R) {count j : Nat}
    (hfront : Front length R known recent) (hj : j ∈ withinRounds advance count known recent) :
    ∃ i ∈ known, ∃ k ≤ count, Steps R k i j := by
  induction count generalizing known recent with
  | zero => exact ⟨j, hj, 0, Nat.le_refl _, rfl⟩
  | succ count ih =>
    cases recent with
    | nil => exact ⟨j, hj, 0, Nat.zero_le _, rfl⟩
    | cons i is =>
      rw [withinRounds_cons] at hj
      obtain ⟨m, hm, k, hk, hsteps⟩ := ih (h.front_step hfront) hj
      rcases (h.mem_append_fresh hfront).mp hm with hm | ⟨i', hi', him⟩
      · exact ⟨m, hm, k, by omega, hsteps⟩
      · exact ⟨i', hfront.mem i' hi', k + 1, by omega, m, him, hsteps⟩

/-- Every position that is led to is reached within its number of rounds, and all of them are once
there are more rounds than positions that are not known. -/
theorem mem_withinRounds_of_steps (h : Advances length advance R) {count k i j : Nat}
    (hfront : Front length R known recent) (hi : i ∈ known) (hsteps : Steps R k i j)
    (hcount : k ≤ count ∨ recent = [] ∨ length + 1 < known.length + count) :
    j ∈ withinRounds advance count known recent := by
  induction count generalizing known recent i k with
  | zero =>
    rcases hcount with hk | rfl | hlength
    · obtain rfl := Nat.le_zero.mp hk
      exact hsteps ▸ hi
    · exact steps_mem (fun i hi => hfront.done i hi List.not_mem_nil) hi hsteps
    · have hle := hfront.ofKnown.length_le
      omega
  | succ count ih =>
    cases hrecent : recent with
    | nil =>
      subst hrecent
      exact steps_mem (fun i hi => hfront.done i hi List.not_mem_nil) hi hsteps
    | cons r rs =>
      subst hrecent
      have hnext := h.front_step hfront
      have hi' := (h.mem_append_fresh hfront).mpr (.inl hi)
      rw [withinRounds_cons]
      cases k with
      | zero => exact ih hnext hi' hsteps (.inl (Nat.zero_le _))
      | succ k =>
        obtain ⟨m, him, hsteps⟩ := hsteps
        have hm : m ∈ known ++ fresh known (advance (r :: rs)) := by
          refine (h.mem_append_fresh hfront).mpr ?_
          by_cases hmem : i ∈ r :: rs
          · exact .inr ⟨i, hmem, him⟩
          · exact .inl (hfront.done i hi hmem m him)
        refine ih hnext hm hsteps ?_
        rcases hcount with hk | hnil | hlength
        · exact .inl (by omega)
        · cases hnil
        · -- a round that finds nothing new is the last one
          cases hfound : fresh known (advance (r :: rs)) with
          | nil => exact .inr (.inl rfl)
          | cons f fs =>
            refine .inr (.inr ?_)
            rw [List.length_append, List.length_cons]
            omega

end Advances

/-- The tree spans the text from a position up to another one. A repetition goes on at most as often
as it is counted, or as often as it has to if that is more. -/
def Node.Spans (text : Array Char) : Node → Nat → Nat → Prop
  | .empty, i, j => i = j
  | .chars set, i, j => (∃ c, text[i]? = some c ∧ set.contains c = true) ∧ j = i + 1
  | .look test, i, j =>
    test.holds (if i = 0 then none else text[i - 1]?) text[i]? = true ∧ i = j
  | .group _ body, i, j => body.Spans text i j
  | .seq first second, i, j => ∃ k, first.Spans text i k ∧ second.Spans text k j
  | .alt first second, i, j => first.Spans text i j ∨ second.Spans text i j
  | .times lo hi _ body, i, j => ∃ count, lo ≤ count ∧
    (∀ n, hi = some n → count ≤ max lo n) ∧ Steps (body.Spans text) count i j

namespace Node
variable (text : Array Char)

theorem advances_chars (set : CodeSet) :
    Advances text.size (ends text (.chars set)) ((chars set).Spans text) := by
  have hpick : ∀ {i k : Nat}, (if text[i]?.any set.contains then some (i + 1) else none) = some k ↔
      (∃ c, text[i]? = some c ∧ set.contains c = true) ∧ k = i + 1 := by
    intro i k
    rw [← Option.any_eq_true]
    by_cases h : text[i]?.any set.contains = true
    · simp [h, eq_comm]
    · simp [h]
  have hmem : ∀ {is : List Nat} {j : Nat}, j ∈ ends text (.chars set) is ↔
      ∃ i ∈ is, (∃ c, text[i]? = some c ∧ set.contains c = true) ∧ j = i + 1 := by
    intro is j
    show j ∈ List.filterMap _ _ ↔ _
    rw [List.mem_filterMap]
    simp only [hpick]
  refine ⟨fun {is} his => ⟨?_, fun j hj => ?_⟩, fun his j => hmem⟩
  · refine List.Nodup.filterMap (fun i i' k hi hi' => ?_) his.nodup
    have h := (hpick.mp hi).2
    have h' := (hpick.mp hi').2
    omega
  · obtain ⟨i, hi, ⟨c, hc, -⟩, rfl⟩ := hmem.mp hj
    exact (Array.getElem?_eq_some_iff.mp hc).1

theorem advances_times {body : Node} (h : Advances text.size (ends text body) (body.Spans text))
    (lo : Nat) (hi : Option Nat) (greedy : Bool) :
    Advances text.size (ends text (.times lo hi greedy body))
      ((times lo hi greedy body).Spans text) := by
  have hleast := h.inRounds lo
  have hfront : ∀ {is}, Positions text.size is →
      Advances.Front text.size (body.Spans text) (inRounds (ends text body) lo is)
        (inRounds (ends text body) lo is) := fun his =>
    ⟨hleast.positions his, hleast.positions his, fun _ => id, fun i hi hnew => absurd hi hnew⟩
  refine ⟨fun his => h.positions_withinRounds (hfront his), fun {is} his j => ⟨fun hj => ?_, ?_⟩⟩
  · obtain ⟨m, hm, k, hk, hsteps⟩ := h.steps_of_mem_withinRounds (hfront his) hj
    obtain ⟨i, hi', him⟩ := (hleast.mem_iff his m).mp hm
    refine ⟨i, hi', lo + k, Nat.le_add_right lo k, ?_, steps_add.mpr ⟨m, him, hsteps⟩⟩
    rintro n rfl
    dsimp only at hk
    omega
  · rintro ⟨i, hi', count, hlo, hbound, hsteps⟩
    obtain ⟨extra, rfl⟩ := Nat.exists_eq_add_of_le hlo
    obtain ⟨m, him, hmj⟩ := steps_add.mp hsteps
    have hm := (hleast.mem_iff his m).mpr ⟨i, hi', him⟩
    refine h.mem_withinRounds_of_steps (hfront his) hm hmj ?_
    cases hi with
    | none =>
      have hpos := List.length_pos_of_mem hm
      dsimp only
      omega
    | some n =>
      have hle := hbound n rfl
      dsimp only
      omega

theorem advances_ends (node : Node) :
    Advances text.size (ends text node) (node.Spans text) := by
  induction node with
  | empty => exact ⟨id, fun _ j => by simp [ends, Spans]⟩
  | chars set => exact advances_chars text set
  | look test =>
    refine ⟨fun his => ⟨his.nodup.filter _, fun i hi => his.le i (List.mem_of_mem_filter hi)⟩, ?_⟩
    intro is his j
    show j ∈ List.filter _ _ ↔ _
    rw [List.mem_filter]
    constructor
    · rintro ⟨hj, htest⟩
      exact ⟨j, hj, htest, rfl⟩
    · rintro ⟨i, hi, htest, rfl⟩
      exact ⟨hi, htest⟩
  | group index body ih => exact ih
  | seq first second ihf ihs => exact ihf.comp ihs
  | alt first second ihf ihs => exact ihf.merged ihs
  | times lo hi greedy body ih => exact advances_times text ih lo hi greedy

/-- Matching reaches the positions up to which the tree spans the text from one of the starts. -/
theorem mem_ends_iff (node : Node) {starts : List Nat} (hstarts : Positions text.size starts)
    (j : Nat) : j ∈ ends text node starts ↔ ∃ i ∈ starts, node.Spans text i j :=
  (advances_ends text node).mem_iff hstarts j

theorem occurs_iff (node : Node) :
    occurs text node = true ↔ ∃ i ≤ text.size, ∃ j ≤ text.size, node.Spans text i j := by
  have hstarts : Positions text.size (List.range (text.size + 1)) :=
    ⟨List.nodup_range, fun i hi => Nat.le_of_lt_succ (List.mem_range.mp hi)⟩
  have hends := (advances_ends text node).positions hstarts
  unfold occurs
  rw [Bool.not_eq_true', List.isEmpty_eq_false_iff_exists_mem]
  constructor
  · rintro ⟨j, hj⟩
    obtain ⟨i, hi, hspans⟩ := (mem_ends_iff text node hstarts j).mp hj
    exact ⟨i, hstarts.le i hi, j, hends.le j hj, hspans⟩
  · rintro ⟨i, hi, j, -, hspans⟩
    exact ⟨j, (mem_ends_iff text node hstarts j).mpr
      ⟨i, List.mem_range.mpr (Nat.lt_succ_of_le hi), hspans⟩⟩

theorem occurs_between (node : Node) :
    occurs text (.seq (.look .textStart) (.seq node (.look .textEnd))) = true ↔
      node.Spans text 0 text.size := by
  have hstart : ∀ {i j : Nat}, i ≤ text.size →
      ((look .textStart).Spans text i j ↔ i = 0 ∧ i = j) := by
    intro i j hi
    unfold Spans Look.holds
    by_cases h : i = 0
    · simp [h]
    · have hbefore : i - 1 < text.size := by omega
      simp [h, Array.getElem?_eq_getElem hbefore]
  have hend : ∀ {i j : Nat}, (look .textEnd).Spans text i j ↔ text.size ≤ i ∧ i = j := by
    intro i j
    unfold Spans Look.holds
    simp
  rw [occurs_iff]
  constructor
  · rintro ⟨i, hi, j, hj, k, hk, l, hl, hlj⟩
    obtain ⟨rfl, rfl⟩ := (hstart hi).mp hk
    obtain ⟨hle, rfl⟩ := hend.mp hlj
    obtain rfl : l = text.size := Nat.le_antisymm hj hle
    exact hl
  · intro h
    exact ⟨0, Nat.zero_le _, text.size, Nat.le_refl _, 0, (hstart (Nat.zero_le _)).mpr ⟨rfl, rfl⟩,
      text.size, h, hend.mpr ⟨Nat.le_refl _, rfl⟩⟩

end Node

end InfoModel.Pattern

import InfoModel.Pattern.Basic
import InfoModel.Proofs.Text.Cut

/-!
# What stands behind a pattern

A pattern in a group is read like the pattern alone: a reader leaves what stands behind the pattern
as it is, unless it goes past the closing parenthesis. If it could have stopped before that, then
only because of a comment, which reaches over the parenthesis to the end of the line. Main
statements: `Local.bind`, `Local.onHead`.
-/

namespace InfoModel.Pattern
open InfoModel.Text InfoModel.Unicode

/-- What stands behind a pattern that is enclosed. -/
def closing : List Char := [')', '$']

/-- What readers give, which holds the text that is left. -/
class Remainder (ρ : Type) where
  rest : ρ → List Char
  followedBy : List Char → ρ → ρ
  rest_followedBy : ∀ t r, rest (followedBy t r) = rest r ++ t

open Remainder (rest followedBy)

instance : Remainder (List Char) := ⟨id, fun t cs => cs ++ t, fun _ _ => rfl⟩

instance {α ρ : Type} [Remainder ρ] : Remainder (α × ρ) :=
  ⟨fun r => rest r.2, fun t r => (r.1, followedBy t r.2),
    fun t r => Remainder.rest_followedBy t r.2⟩

instance : Remainder FlagText :=
  ⟨FlagText.rest, fun t r => { r with rest := r.rest ++ t }, fun _ _ => rfl⟩

instance : Remainder Cursor :=
  ⟨Cursor.rest, fun t c => { c with rest := c.rest ++ t }, fun _ _ => rfl⟩

/-- Reads by `g` behind the character `c`, and by `g'` where another one stands. -/
def onHead {ρ : Type} (c : Char) (g g' : List Char → Option ρ) : List Char → Option ρ
  | [] => g' []
  | d :: cs => if d = c then g cs else g' (d :: cs)

def onPair {ρ : Type} (c : Char) (g g' : List Char → Option ρ) : List Char → Option ρ
  | d :: e :: cs => if d = c ∧ e = c then g cs else g' (d :: e :: cs)
  | cs => g' cs

section
variable {ρ : Type} {c : Char} (g g' : List Char → Option ρ)

theorem onHead_cons (d : Char) (cs : List Char) :
    onHead c g g' (d :: cs) = if d = c then g cs else g' (d :: cs) := rfl

theorem onHead_self (cs : List Char) : onHead c g g' (c :: cs) = g cs := if_pos rfl

theorem onHead_ne {cs : List Char} (h : ∀ rest, cs = c :: rest → False) :
    onHead c g g' cs = g' cs := by
  cases cs with
  | nil => rfl
  | cons d cs =>
    refine if_neg fun hd => h cs ?_
    rw [hd]

theorem onPair_ne {cs : List Char} (h : ∀ rest, cs = c :: c :: rest → False) :
    onPair c g g' cs = g' cs := by
  rcases cs with _ | ⟨d, _ | ⟨e, cs⟩⟩
  · rfl
  · rfl
  · refine if_neg fun hpair => h cs ?_
    rw [hpair.1, hpair.2]

variable {g g'} {h h' : List Char → Option ρ} {cs : List Char}

theorem onHead_congr (hg : ∀ rest, rest.length < cs.length → g rest = h rest)
    (hg' : g' cs = h' cs) : onHead c g g' cs = onHead c h h' cs := by
  cases cs with
  | nil => exact hg'
  | cons d cs =>
    rw [onHead_cons, onHead_cons, hg cs (Nat.lt_succ_self _), hg']

theorem onPair_congr (hg : ∀ rest, rest.length < cs.length → g rest = h rest)
    (hg' : g' cs = h' cs) : onPair c g g' cs = onPair c h h' cs := by
  rcases cs with _ | ⟨d, _ | ⟨e, cs⟩⟩
  · exact hg'
  · exact hg'
  · unfold onPair
    dsimp only
    rw [hg cs (by simp only [List.length_cons]; omega), hg']

end

section
variable {α ρ σ : Type} [Remainder ρ] [Remainder σ] {cs : List Char} {x y : Option ρ}

@[simp] theorem followedBy_list (t cs : List Char) : followedBy t cs = cs ++ t := rfl

@[simp] theorem followedBy_pair (t : List Char) (a : α) (r : ρ) :
    followedBy t (a, r) = (a, followedBy t r) := rfl

/-! ### Outcomes alike -/

/-- What is left is an end of the text. -/
def Leaves (cs : List Char) (x : Option ρ) : Prop := ∀ r, x = some r → rest r <:+ cs

/-- Reading `cs` with the closing behind it, which comes to `y`, is like reading it alone, which
comes to `x`, or it goes past the parenthesis. -/
def Alike (cs : List Char) (x y : Option ρ) : Prop :=
  y = x.map (followedBy closing) ∨ (x.isSome → '#' ∈ cs) ∧ Leaves ['$'] y

theorem Leaves.none (cs : List Char) : Leaves cs (none : Option ρ) := by
  intro r h
  cases h

theorem Leaves.some {r : ρ} (h : rest r <:+ cs) : Leaves cs (some r) := by
  rintro _ ⟨⟩
  exact h

theorem Leaves.mono {cs' : List Char} (h : Leaves cs x) (hcs : cs <:+ cs') : Leaves cs' x :=
  fun r hr => (h r hr).trans hcs

theorem Leaves.bind {f : ρ → Option σ} (hx : Leaves cs x) (hf : ∀ r, Leaves (rest r) (f r)) :
    Leaves cs (x.bind f) := by
  intro s hs
  obtain ⟨r, hr, hs⟩ := Option.bind_eq_some_iff.mp hs
  exact (hf r s hs).trans (hx r hr)

theorem Leaves.bind_congr {τ : Type} {f g : ρ → Option τ} (hx : Leaves cs x)
    (hfg : ∀ r, (rest r).length ≤ cs.length → f r = g r) : x.bind f = x.bind g := by
  cases hread : x with
  | none => rfl
  | some r => exact hfg r (hx r hread).length_le

theorem Alike.none (cs : List Char) : Alike cs (none : Option ρ) none := .inl rfl

theorem Alike.past (hx : x = Option.none) (hy : Leaves ['$'] y) : Alike cs x y :=
  .inr ⟨fun h => by simp [hx] at h, hy⟩

theorem Alike.mono {cs' : List Char} (h : Alike cs x y) (hcs : cs <:+ cs') : Alike cs' x y := by
  rcases h with heq | ⟨hsome, hpast⟩
  · exact .inl heq
  · exact .inr ⟨fun h => hcs.subset (hsome h), hpast⟩

theorem Alike.bind {f g : ρ → Option σ} (h : Alike cs x y) (hx : Leaves cs x)
    (hfg : ∀ r, x = Option.some r → Alike (rest r) (f r) (g (followedBy closing r)))
    (hg : ∀ r, Leaves (rest r) (g r)) : Alike cs (x.bind f) (y.bind g) := by
  rcases h with rfl | ⟨hcomment, hpast⟩
  · cases x with
    | none => exact .none cs
    | some r =>
      rcases hfg r rfl with heq | ⟨hsome, hleaves⟩
      · exact .inl heq
      · exact .inr ⟨fun h => (hx r rfl).subset (hsome h), hleaves⟩
  · exact .inr ⟨fun hsome => hcomment (Option.isSome_of_isSome_bind hsome), hpast.bind hg⟩

/-! ### Readers -/

/-- A reader that leaves what stands behind a pattern as it is, unless it goes past the closing
parenthesis. -/
structure Local (g : List Char → Option ρ) : Prop where
  leaves : ∀ cs, Leaves cs (g cs)
  alike : ∀ cs, Alike cs (g cs) (g (cs ++ closing))

theorem Local.congr {g g' : List Char → Option ρ} (hg : Local g') (h : ∀ cs, g cs = g' cs) :
    Local g := by
  obtain rfl : g = g' := funext h
  exact hg

theorem Local.none : Local fun _ => (none : Option ρ) := ⟨.none, .none⟩

theorem Local.done (a : α) : Local fun cs => some (a, cs) :=
  ⟨fun _ => .some List.suffix_rfl, fun _ => .inl rfl⟩

theorem Local.done₂ {β : Type} (a : α) (b : β) : Local fun cs => some (a, b, cs) :=
  ⟨fun _ => .some List.suffix_rfl, fun _ => .inl rfl⟩

theorem Local.ofOption {β : Type} (o : Option α) (f : α → β) :
    Local fun cs => o.map fun a => (f a, cs) := by
  cases o with
  | none => exact .none
  | some a => exact .done (f a)

theorem Local.ofOption₂ {β : Type} (o : Option α) (b : β) :
    Local fun cs => o.map fun a => (a, b, cs) := by
  cases o with
  | none => exact .none
  | some a => exact .done₂ a b

theorem Local.andThen {g : List Char → Option ρ} {h : ρ → Option σ} (hg : Local g)
    (hleaves : ∀ r, Leaves (rest r) (h r))
    (halike : ∀ r, Alike (rest r) (h r) (h (followedBy closing r))) :
    Local fun cs => (g cs).bind h where
  leaves cs := (hg.leaves cs).bind hleaves
  alike cs := (hg.alike cs).bind (hg.leaves cs) (fun r _ => halike r) hleaves

theorem Local.bind {g : List Char → Option (α × List Char)} {h : α → List Char → Option ρ}
    (hg : Local g) (hh : ∀ a, Local (h a)) : Local fun cs => (g cs).bind fun r => h r.1 r.2 :=
  hg.andThen (fun r => (hh r.1).leaves r.2) fun r => (hh r.1).alike r.2

theorem Local.bind₂ {β : Type} {g : List Char → Option (α × β × List Char)}
    {h : α → β → List Char → Option ρ} (hg : Local g) (hh : ∀ a b, Local (h a b)) :
    Local fun cs => (g cs).bind fun r => h r.1 r.2.1 r.2.2 :=
  hg.andThen (fun r => (hh r.1 r.2.1).leaves r.2.2) fun r => (hh r.1 r.2.1).alike r.2.2

theorem Local.map {g : List Char → Option (α × List Char)} (hg : Local g) {β : Type} (f : α → β) :
    Local fun cs => (g cs).map fun r => (f r.1, r.2) :=
  (hg.bind fun a => Local.done (f a)).congr fun cs => by
    cases g cs <;> rfl

theorem Local.ite {p : Prop} [Decidable p] {g g' : List Char → Option ρ} (hg : Local g)
    (hg' : Local g') : Local fun cs => if p then g cs else g' cs := by
  split
  · exact hg
  · exact hg'

/-- A reader that leaves what stands behind a pattern in any case. -/
structure Firm (g : List Char → Option ρ) : Prop where
  leaves : ∀ cs, Leaves cs (g cs)
  append : ∀ cs, g (cs ++ closing) = (g cs).map (followedBy closing)

theorem Firm.local {g : List Char → Option ρ} (hg : Firm g) : Local g :=
  ⟨hg.leaves, fun cs => .inl (hg.append cs)⟩

theorem Firm.andThen {g : List Char → Option ρ} {h : ρ → Option σ} (hg : Firm g)
    (hleaves : ∀ r, Leaves (rest r) (h r))
    (happend : ∀ r, h (followedBy closing r) = (h r).map (followedBy closing)) :
    Firm fun cs => (g cs).bind h where
  leaves cs := (hg.leaves cs).bind hleaves
  append cs := by
    rw [hg.append]
    cases g cs with
    | none => rfl
    | some r => exact happend r

/-- A reader that goes on by `h` if `g` reads something, and by `h'` from the start if not. -/
theorem Firm.elim {g : List Char → Option (List Char)} {h h' : List Char → Option ρ} (hg : Firm g)
    (hh : Local h) (hh' : Local h') : Local fun cs => (g cs).elim (h' cs) h := by
  refine ⟨fun cs => ?_, fun cs => ?_⟩
  · cases hread : g cs with
    | none => exact hh'.leaves cs
    | some inner => exact (hh.leaves inner).mono (hg.leaves cs inner hread)
  · -- `g` reads something with the closing behind it if it does without
    rw [hg.append]
    cases hread : g cs with
    | none => exact hh'.alike cs
    | some inner => exact (hh.alike inner).mono (hg.leaves cs inner hread)

theorem Firm.ofOption {β : Type} (o : Option α) (f : α → β) :
    Firm fun cs => o.map fun a => (f a, cs) :=
  ⟨(Local.ofOption o f).leaves, fun cs => by cases o <;> rfl⟩

theorem Local.byHead {g : List Char → Option ρ} (hnil : g [] = Option.none)
    (hcons : ∀ c, Local fun cs => g (c :: cs)) : Local g := by
  refine ⟨fun cs => ?_, fun cs => ?_⟩
  · cases cs with
    | nil => rw [hnil]; exact .none _
    | cons c cs => exact ((hcons c).leaves cs).mono (List.suffix_cons c cs)
  · cases cs with
    | nil => exact .past hnil ((hcons ')').leaves ['$'])
    | cons c cs => exact ((hcons c).alike cs).mono (List.suffix_cons c cs)

theorem Local.onHead {g g' : List Char → Option ρ} {c : Char} (hc : c ≠ ')') (hg : Local g)
    (hg' : Local g') : Local (onHead c g g') := by
  refine ⟨fun cs => ?_, fun cs => ?_⟩
  · cases cs with
    | nil => exact hg'.leaves []
    | cons d cs =>
      rw [onHead_cons]
      split
      · exact (hg.leaves cs).mono (List.suffix_cons d cs)
      · exact hg'.leaves (d :: cs)
  · cases cs with
    | nil =>
      have hclosing : Pattern.onHead c g g' closing = g' closing :=
        onHead_ne g g' fun rest h => hc (List.cons.inj h).1.symm
      rw [List.nil_append, hclosing]
      exact hg'.alike []
    | cons d cs =>
      rw [List.cons_append, onHead_cons, onHead_cons]
      split
      · exact (hg.alike cs).mono (List.suffix_cons d cs)
      · exact hg'.alike (d :: cs)

theorem Firm.onHead {g g' : List Char → Option ρ} {c : Char} (hc : c ≠ ')') (hg : Firm g)
    (hg' : Firm g') : Firm (onHead c g g') := by
  refine ⟨(Local.onHead hc hg.local hg'.local).leaves, fun cs => ?_⟩
  cases cs with
  | nil => exact (onHead_ne g g' fun rest h => hc (List.cons.inj h).1.symm).trans (hg'.append [])
  | cons d cs =>
    rw [List.cons_append, onHead_cons, onHead_cons]
    split
    · exact hg.append cs
    · exact hg'.append (d :: cs)

theorem Local.onPair {g g' : List Char → Option ρ} {c : Char} (hc : c ≠ ')') (hg : Local g)
    (hg' : Local g') : Local (onPair c g g') := by
  have hclosing : ∀ d, Pattern.onPair c g g' (d :: closing) = g' (d :: closing) := fun d =>
    if_neg fun h => hc h.2.symm
  refine ⟨fun cs => ?_, fun cs => ?_⟩
  · rcases cs with _ | ⟨d, _ | ⟨e, cs⟩⟩
    · exact hg'.leaves []
    · exact hg'.leaves [d]
    · unfold Pattern.onPair
      dsimp only
      split
      · exact (hg.leaves cs).mono ((List.suffix_cons e cs).trans (List.suffix_cons d _))
      · exact hg'.leaves (d :: e :: cs)
  · rcases cs with _ | ⟨d, _ | ⟨e, cs⟩⟩
    · rw [List.nil_append]
      have h : Pattern.onPair c g g' closing = g' closing := if_neg fun h => hc h.1.symm
      rw [h]
      exact hg'.alike []
    · rw [List.singleton_append, hclosing]
      exact hg'.alike [d]
    · unfold Pattern.onPair
      simp only [List.cons_append]
      split
      · exact (hg.alike cs).mono ((List.suffix_cons e cs).trans (List.suffix_cons d _))
      · exact hg'.alike (d :: e :: cs)

theorem Local.cond {g g' : List Char → Option ρ} {p : List Char → Bool}
    (hp : ∀ cs, p (cs ++ closing) = p cs) (hg : Local g) (hg' : Local g') :
    Local fun cs => if p cs then g cs else g' cs := by
  refine ⟨fun cs => ?_, fun cs => ?_⟩
  · split
    · exact hg.leaves cs
    · exact hg'.leaves cs
  · rw [hp]
    split
    · exact hg.alike cs
    · exact hg'.alike cs

/-- A reader with a limit that does not count once it is as long as the text. -/
theorem Local.unlimited {g : Nat → List Char → Option ρ} (hg : ∀ limit, Local (g limit))
    (h : ∀ {m n cs}, List.length cs ≤ m → List.length cs ≤ n → g m cs = g n cs) :
    Local fun cs => g cs.length cs where
  leaves cs := (hg _).leaves cs
  alike cs := by
    rw [h (Nat.le_refl _) (by simp : cs.length ≤ (cs ++ closing).length)]
    exact (hg _).alike cs

end

/-! ### Gaps -/

variable (f : Flags)

theorem afterGap_suffix (inComment : Bool) (cs : List Char) : afterGap inComment cs <:+ cs := by
  induction cs generalizing inComment with
  | nil => cases inComment <;> exact List.suffix_rfl
  | cons c cs ih =>
    have hcs := fun b => (ih b).trans (List.suffix_cons c cs)
    cases inComment with
    | true =>
      unfold afterGap
      split <;> exact hcs _
    | false =>
      unfold afterGap
      split
      · exact hcs _
      · split
        · exact hcs _
        · exact List.suffix_rfl

theorem skip_suffix (cs : List Char) : skip f cs <:+ cs := by
  unfold skip
  split
  · exact afterGap_suffix false cs
  · exact List.suffix_rfl

theorem afterGap_append (inComment : Bool) (cs : List Char) :
    afterGap inComment (cs ++ closing) = afterGap inComment cs ++ closing ∨
      (inComment = true ∨ '#' ∈ cs) ∧ afterGap inComment (cs ++ closing) = [] := by
  induction cs generalizing inComment with
  | nil =>
    cases inComment with
    | true =>
      -- the comment takes up the closing, which has no end of a line
      exact .inr ⟨.inl rfl, by decide⟩
    | false => exact .inl (by decide)
  | cons c cs ih =>
    cases inComment with
    | true =>
      rw [List.cons_append]
      unfold afterGap
      split
      · rcases ih false with h | ⟨h, h'⟩
        · exact .inl h
        · exact .inr ⟨.inl rfl, h'⟩
      · rcases ih true with h | ⟨h, h'⟩
        · exact .inl h
        · exact .inr ⟨.inl rfl, h'⟩
    | false =>
      rw [List.cons_append]
      unfold afterGap
      split
      · rcases ih false with h | ⟨h, h'⟩
        · exact .inl h
        · exact .inr ⟨.inr (List.mem_cons_of_mem c (h.resolve_left Bool.false_ne_true)), h'⟩
      · split
        · next hc =>
          rcases ih true with h | ⟨h, h'⟩
          · exact .inl h
          · exact .inr ⟨.inr (hc ▸ List.mem_cons_self), h'⟩
        · exact .inl rfl

theorem skip_append (cs : List Char) :
    skip f (cs ++ closing) = skip f cs ++ closing ∨ '#' ∈ cs ∧ skip f (cs ++ closing) = [] := by
  unfold skip
  split
  · rcases afterGap_append false cs with h | ⟨h, h'⟩
    · exact .inl h
    · exact .inr ⟨h.resolve_left Bool.false_ne_true, h'⟩
  · exact .inl rfl

theorem local_skip : Local fun cs => some (skip f cs) := by
  refine ⟨fun cs => .some (skip_suffix f cs), fun cs => ?_⟩
  rcases skip_append f cs with h | ⟨h, h'⟩
  · exact .inl (congrArg some h)
  · refine .inr ⟨fun _ => h, ?_⟩
    rw [h']
    exact .some (List.nil_suffix)

theorem Local.skip {ρ : Type} [Remainder ρ] {g : List Char → Option ρ} (hg : Local g) :
    Local fun cs => g (skip f cs) where
  leaves cs := (hg.leaves _).mono (skip_suffix f cs)
  alike cs := ((local_skip f).alike cs).bind (f := g) (g := g) (.some (skip_suffix f cs))
    (fun r _ => hg.alike r) fun r => hg.leaves r

variable (kind : Char → Bool)

theorem takeSpaced_cons (limit : Nat) (c : Char) (cs : List Char) :
    takeSpaced f kind (limit + 1) (c :: cs) =
      if kind c then
        (c :: (takeSpaced f kind limit (skip f cs)).1, (takeSpaced f kind limit (skip f cs)).2)
      else ([], c :: cs) := rfl

theorem takeSpaced_suffix (limit : Nat) (cs : List Char) :
    (takeSpaced f kind limit cs).2 <:+ cs := by
  induction limit generalizing cs with
  | zero => exact List.suffix_rfl
  | succ limit ih =>
    cases cs with
    | nil => exact List.suffix_rfl
    | cons c cs =>
      unfold takeSpaced
      split
      · exact ((ih _).trans (skip_suffix f cs)).trans (List.suffix_cons c cs)
      · exact List.suffix_rfl

theorem takeSpaced_eq_of_le {m n : Nat} {cs : List Char} (hm : cs.length ≤ m) (hn : cs.length ≤ n) :
    takeSpaced f kind m cs = takeSpaced f kind n cs := by
  induction m generalizing n cs with
  | zero =>
    obtain rfl := List.length_eq_zero_iff.mp (Nat.le_zero.mp hm)
    cases n <;> rfl
  | succ m ih =>
    cases cs with
    | nil => cases n <;> rfl
    | cons c cs =>
      cases n with
      | zero => exact absurd hn (by simp)
      | succ n =>
        have hlength := (skip_suffix f cs).length_le
        rw [List.length_cons] at hm hn
        unfold takeSpaced
        rw [ih (n := n) (by omega) (by omega)]

theorem takeSpaced_append (hkind : kind ')' = false) (limit : Nat) (cs : List Char) :
    takeSpaced f kind limit (cs ++ closing) = followedBy closing (takeSpaced f kind limit cs) ∨
      '#' ∈ cs ∧ (takeSpaced f kind limit (cs ++ closing)).2 <:+ ['$'] := by
  induction limit generalizing cs with
  | zero => exact .inl rfl
  | succ limit ih =>
    cases cs with
    | nil => exact .inl (by simp [takeSpaced, closing, hkind])
    | cons c cs =>
      rw [List.cons_append]
      unfold takeSpaced
      split
      · rcases skip_append f cs with h | ⟨h, h'⟩
        · rw [h]
          rcases ih (skip f cs) with heq | ⟨hmem, hpast⟩
          · exact .inl (by rw [heq]; rfl)
          · exact .inr ⟨List.mem_cons_of_mem c ((skip_suffix f cs).subset hmem), hpast⟩
        · refine .inr ⟨List.mem_cons_of_mem c h, ?_⟩
          rw [h']
          exact (takeSpaced_suffix f kind limit []).trans List.nil_suffix
      · exact .inl rfl

theorem local_takeSpaced (hkind : kind ')' = false) (limit : Nat) :
    Local fun cs => some (takeSpaced f kind limit cs) := by
  refine ⟨fun cs => .some (takeSpaced_suffix f kind limit cs), fun cs => ?_⟩
  rcases takeSpaced_append f kind hkind limit cs with h | ⟨h, h'⟩
  · exact .inl (congrArg some h)
  · exact .inr ⟨fun _ => h, .some h'⟩

theorem local_takeSpaced_length (hkind : kind ')' = false) :
    Local fun cs => some (takeSpaced f kind cs.length cs) :=
  Local.unlimited (g := fun limit cs => some (takeSpaced f kind limit cs))
    (local_takeSpaced f kind hkind) fun hm hn => congrArg some (takeSpaced_eq_of_le f kind hm hn)

def inBraces (limit : Nat) (cs : List Char) : Option (List Char × List Char) :=
  match takeSpaced f (· ≠ '\x7d') limit cs with
  | (taken, _ :: rest) => some (taken, rest)
  | (_, []) => none

theorem inBraces_cons (limit : Nat) (c : Char) (cs : List Char) :
    inBraces f (limit + 1) (c :: cs) =
      if c ≠ '\x7d' then (inBraces f limit (skip f cs)).map fun r => (c :: r.1, r.2)
      else some ([], cs) := by
  unfold inBraces
  rw [takeSpaced_cons]
  by_cases hc : c = '\x7d'
  · simp [hc]
  · simp only [hc, ne_eq, not_false_eq_true, decide_true, if_true]
    rcases takeSpaced f _ limit (skip f cs) with ⟨taken, _ | ⟨d, rest⟩⟩ <;> rfl

theorem local_inBraces (limit : Nat) : Local (inBraces f limit) := by
  induction limit with
  | zero => exact .byHead rfl fun c => (Local.done []).congr fun cs => rfl
  | succ limit ih =>
    refine .byHead rfl fun c => ?_
    exact (Local.ite ((Local.skip f ih).map (c :: ·)) (.done [])).congr (inBraces_cons f limit c)

theorem local_inBraces_length : Local fun cs => inBraces f cs.length cs :=
  Local.unlimited (local_inBraces f) fun hm hn => by
    unfold inBraces
    rw [takeSpaced_eq_of_le f _ hm hn]

theorem local_inBraces_skip : Local fun cs => inBraces f cs.length (skip f cs) :=
  (Local.skip f (local_inBraces_length f)).congr fun cs => by
    unfold inBraces
    rw [takeSpaced_eq_of_le f _ (skip_suffix f cs).length_le (Nat.le_refl _)]

end InfoModel.Pattern

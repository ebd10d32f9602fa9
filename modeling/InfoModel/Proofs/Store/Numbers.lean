import InfoModel.Proofs.Building.Outcome
import InfoModel.Proofs.Store.Law

/-!
# Numbers that were not given out

A store remembers nothing of a number that it did not give out yet: no module with it was released,
and none of its parts was refused. Whatever is asked of the store, that remains so. Hence the parts
of a module that just got its number are not refused, and each is built as if it were built on its
own. Main statements: `Store.fst_demand`, `Store.fst_resolveAll`.
-/

namespace InfoModel

namespace Store

/-- The module with a number was not released, and none of its parts was refused. -/
structure Clear (s : Store) (n : Nat) : Prop where
  held : n ∉ s.released
  fates : ∀ slot : Slot, slot.home = n → s.fate? slot ≠ some .refused

/-- All numbers that are still to be given out are clear. -/
def Ahead (s : Store) : Prop := ∀ n, s.nextId ≤ n → s.Clear n

/-- No number was given out on the way from `s` to `t`, and every number that was clear is so still.
-/
structure Undisturbed (s t : Store) : Prop where
  numbers : t.nextId = s.nextId
  clear : ∀ n, s.Clear n → t.Clear n

variable {s t u : Store}

theorem ahead_empty : empty.Ahead := by
  intro n _
  refine ⟨List.not_mem_nil, ?_⟩
  intro slot _ hf
  exact absurd hf (by simp [fate?, empty])

theorem Ahead.next (h : s.Ahead) : s.Clear s.nextId := h s.nextId (Nat.le_refl _)

theorem Ahead.numbered (h : s.Ahead) : s.numbered.Ahead := by
  intro n hn
  have hc := h n (Nat.le_of_succ_le hn)
  exact ⟨hc.held, hc.fates⟩

theorem Undisturbed.refl (s : Store) : s.Undisturbed s := ⟨rfl, fun _ h => h⟩

theorem Undisturbed.trans (h₁ : s.Undisturbed t) (h₂ : t.Undisturbed u) : s.Undisturbed u :=
  ⟨h₂.numbers.trans h₁.numbers, fun n hn => h₂.clear n (h₁.clear n hn)⟩

theorem Ahead.of_undisturbed (h : s.Ahead) (ht : s.Undisturbed t) : t.Ahead := by
  intro n hn
  rw [ht.numbers] at hn
  exact ht.clear n (h n hn)

theorem Undisturbed.of_records (h : s.Records t) : s.Undisturbed t := by
  obtain ⟨published, journal, rfl⟩ := h
  exact ⟨rfl, fun n hc => ⟨hc.held, hc.fates⟩⟩

theorem undisturbed_note (s : Store) (events : List Event) : s.Undisturbed (s.note events) :=
  Undisturbed.of_records ⟨_, _, rfl⟩

theorem fate?_settle (s : Store) (slot slot' : Slot) (fate : Fate) :
    (s.settle slot fate).fate? slot' = if slot = slot' then some fate else s.fate? slot' := by
  unfold fate? settle
  rw [List.find?_cons]
  by_cases h : slot = slot'
  · simp [h]
  · simp [h]

theorem undisturbed_settle_built (s : Store) (slot : Slot) :
    s.Undisturbed (s.settle slot .built) := by
  refine ⟨rfl, fun n hc => ⟨hc.held, ?_⟩⟩
  intro slot' hs
  rw [fate?_settle]
  split
  · simp
  · exact hc.fates slot' hs

theorem undisturbed_settle_refused {slot : Slot} (h : slot.home ∈ s.released) :
    s.Undisturbed (s.settle slot .refused) := by
  refine ⟨rfl, fun n hc => ⟨hc.held, ?_⟩⟩
  intro slot' hs
  rw [fate?_settle]
  split
  · rename_i heq
    subst heq
    exact absurd (hs ▸ h) hc.held
  · exact hc.fates slot' hs

theorem undisturbed_demand (p : Part α) (s : Store) : s.Undisturbed (s.demand p).2 := by
  rcases demand_cases p s with ⟨_, -, h⟩ | ⟨-, -, hr, h⟩ | ⟨-, -, h⟩
  · rw [h]
    exact .refl s
  · rw [h]
    exact undisturbed_settle_refused hr
  · rw [h]
    exact (Undisturbed.of_records (records_trace _ s)).trans (undisturbed_settle_built _ p.slot)

theorem law_undisturbed : Law (fun _ => True) Undisturbed where
  refl := Undisturbed.refl
  trans := Undisturbed.trans
  imports _ _ := trivial
  consult _ s := Undisturbed.of_records (records_consult _ s)
  note _ _ s := undisturbed_note s _
  built _ := undisturbed_settle_built _ _
  refused _ hr := undisturbed_settle_refused hr

theorem law_ahead : Law (fun _ => True) fun s t => s.Ahead → t.Ahead where
  refl _ h := h
  trans h₁ h₂ h := h₂ (h₁ h)
  imports _ _ := trivial
  consult hm s h := h.of_undisturbed (law_undisturbed.consult hm s)
  note he hl s h := h.of_undisturbed (law_undisturbed.note he hl s)
  built hf h := h.of_undisturbed (law_undisturbed.built hf)
  refused hf hr h := h.of_undisturbed (law_undisturbed.refused hf hr)

theorem law_clear : Law (fun _ => True) fun s t => ∀ n, s.Clear n → t.Clear n where
  refl _ _ h := h
  trans h₁ h₂ n h := h₂ n (h₁ n h)
  imports _ _ := trivial
  consult hm s := (law_undisturbed.consult hm s).clear
  note he hl s := (law_undisturbed.note he hl s).clear
  built hf := (law_undisturbed.built hf).clear
  refused hf hr := (law_undisturbed.refused hf hr).clear

/-- Parts are refused of released modules only. -/
def Truthful (s : Store) : Prop := ∀ slot, s.fate? slot = some .refused → slot.home ∈ s.released

theorem truthful_empty : empty.Truthful := by
  intro slot h
  exact absurd h (by simp [fate?, empty])

theorem Truthful.clear (h : s.Truthful) {n : Nat} (hn : n ∉ s.released) : s.Clear n := by
  refine ⟨hn, ?_⟩
  rintro slot rfl hf
  exact hn (h slot hf)

theorem Truthful.of_records (h : s.Truthful) (ht : s.Records t) : t.Truthful := by
  obtain ⟨published, journal, rfl⟩ := ht
  exact h

theorem law_truthful : Law (fun _ => True) fun s t => s.Truthful → t.Truthful where
  refl _ h := h
  trans h₁ h₂ h := h₂ (h₁ h)
  imports _ _ := trivial
  consult _ s h := h.of_records (records_consult _ s)
  note _ _ s h := h
  built _ h slot' hf := by
    rw [fate?_settle] at hf
    split at hf
    · cases hf
    · exact h slot' hf
  refused _ hr h slot' hf := by
    rw [fate?_settle] at hf
    split at hf
    · rename_i heq
      exact heq ▸ hr
    · exact h slot' hf

/-- What became of a part never changes. -/
def Remembers (s t : Store) : Prop :=
  ∀ slot fate, s.fate? slot = some fate → t.fate? slot = some fate

theorem remembers_settle {slot : Slot} (h : s.fate? slot = none) (fate : Fate) :
    s.Remembers (s.settle slot fate) := by
  intro slot' fate' hf
  rw [fate?_settle, if_neg]
  · exact hf
  · rintro rfl
    rw [h] at hf
    contradiction

theorem law_remembers : Law (fun _ => True) Remembers where
  refl _ _ _ h := h
  trans h₁ h₂ slot fate h := h₂ slot fate (h₁ slot fate h)
  imports _ _ := trivial
  consult _ s slot _ h := ((records_consult _ s).fate?_eq slot).trans h
  note _ _ _ _ _ h := h
  built hf := remembers_settle hf _
  refused hf _ := remembers_settle hf _

theorem fate?_demand (p : Part α) (s : Store) : ((s.demand p).2.fate? p.slot).isSome := by
  rcases demand_cases p s with ⟨fate, hf, h⟩ | ⟨-, -, -, h⟩ | ⟨-, -, h⟩
  · rw [h, hf]
    rfl
  · rw [h, fate?_settle, if_pos rfl]
    rfl
  · rw [h, fate?_settle, if_pos rfl]
    rfl

theorem fate?_demand_of_ne {p : Part α} {slot : Slot} (h : p.slot ≠ slot) (s : Store) :
    (s.demand p).2.fate? slot = s.fate? slot := by
  rcases demand_cases p s with ⟨-, -, hd⟩ | ⟨-, -, -, hd⟩ | ⟨-, -, hd⟩
  · rw [hd]
  · rw [hd, fate?_settle, if_neg h]
  · rw [hd, fate?_settle, if_neg h, (records_trace _ s).fate?_eq]

/-- A part of a module with a clear number is built as if it were built on its own. -/
theorem fst_demand {p : Part α} (h : s.Clear p.slot.home) : (s.demand p).1 = p.build.outcome := by
  unfold demand
  split
  · rfl
  · rename_i hf
    exact absurd hf (h.fates p.slot rfl)
  · rw [if_neg]
    rw [Bool.and_eq_true, List.contains_iff_mem]
    exact fun hr => h.held hr.2

def firstFault (os : List (Except ModelFault Unit)) : Except ModelFault Unit := os.forM id

theorem fst_forM {m : Module} {ps : List (Part Unit)} (hps : ∀ p ∈ ps, p.Of m)
    (h : s.Clear m.id) : (ps.forM Part.get s).1 = firstFault (outcomes ps) := by
  induction ps generalizing s with
  | nil => rfl
  | cons p ps ih =>
    have hp := hps p List.mem_cons_self
    have hd := fst_demand (p := p) (hp.home.symm ▸ h)
    have hu := law_undisturbed.demand trivial hp s
    have hf : firstFault (outcomes (p :: ps)) =
        p.build.outcome >>= fun _ => firstFault (outcomes ps) := rfl
    rw [forM_get_cons, hf, ← hd]
    cases hs : s.demand p with
    | mk outcome t =>
      rw [hs] at hu
      cases outcome with
      | ok _ => exact ih (fun q hq => hps q (List.mem_cons_of_mem p hq)) (hu.clear m.id h)
      | error e => rfl

/-- A module with a clear number is resolved if each of its parts can be built; else the first fault
is reported. -/
theorem fst_resolveAll {m : Module} (h : s.Clear m.id) :
    (m.resolveAll s).1 = firstFault (outcomes m.parts) := by
  have hf := fst_forM (fun p hp => Module.of_mem_parts hp) h
  rw [resolveAll_eq, ← hf]
  cases m.parts.forM Part.get s with
  | mk outcome t =>
    cases outcome with
    | ok _ => rfl
    | error e => rfl

theorem forM_resolveAll_eq_ok_iff {ms : List Module} (h : ∀ m ∈ ms, s.Clear m.id) :
    (ms.forM Module.resolveAll s).1 = .ok () ↔ ∀ m ∈ ms, (m.resolveAll s).1 = .ok () := by
  induction ms generalizing s with
  | nil => exact iff_of_true rfl fun m hm => absurd hm List.not_mem_nil
  | cons m ms ih =>
    obtain ⟨hm, hms⟩ := List.forall_mem_cons.mp h
    have hu := law_undisturbed.resolveAll (m := m) trivial s
    have hcons : (m :: ms).forM Module.resolveAll =
        m.resolveAll >>= fun _ => ms.forM Module.resolveAll := rfl
    rw [hcons, stateful_bind, List.forall_mem_cons]
    cases hr : m.resolveAll s with
    | mk outcome t =>
      rw [hr] at hu
      cases outcome with
      | error e => exact iff_of_false (by simp) fun h => absurd h.1 (by simp)
      | ok _ =>
        refine (ih fun n hn => hu.clear n.id (hms n hn)).trans ?_
        refine Iff.trans ?_ (and_iff_right rfl).symm
        refine forall₂_congr fun n hn => ?_
        rw [fst_resolveAll (hu.clear n.id (hms n hn)), fst_resolveAll (hms n hn)]

end Store

end InfoModel

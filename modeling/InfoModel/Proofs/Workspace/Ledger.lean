import InfoModel.Proofs.Store.History
import InfoModel.Workspace

/-!
# Modules that are alive

A module is alive as long as a workspace holds it, its loader keeps it, or a module that is alive
imports it. A ledger tells which modules were met and which of these are kept; it is in order if the
store has released just those that were met and are not kept any longer. It stays in order when
modules join and when modules are let go. Main statements: `Workspace.mem_held_iff`, `Ledger.join`,
`Ledger.hold`.
-/

namespace InfoModel

namespace Module

mutual

theorem mem_family_iff {n : Nat} : (m : Module) → (n ∈ family m ↔ ∃ b, m.Spans b ∧ b.id = n)
  | ⟨info, imports⟩ => by
    have hm : n ∈ family ⟨info, imports⟩ ↔ n = info.id ∨ n ∈ familyOf imports := List.mem_cons
    rw [hm, mem_familyOf_iff imports]
    constructor
    · rintro (rfl | ⟨i, hi, b, hb, rfl⟩)
      · exact ⟨_, .self _, rfl⟩
      · exact ⟨b, .of_import hi hb, rfl⟩
    · rintro ⟨b, hb, rfl⟩
      rcases hb.cases_imports with rfl | ⟨i, hi, hb⟩
      · exact .inl rfl
      · exact .inr ⟨i, hi, b, hb, rfl⟩

theorem mem_familyOf_iff {n : Nat} : (ms : List Module) →
    (n ∈ familyOf ms ↔ ∃ m ∈ ms, ∃ b, m.Spans b ∧ b.id = n)
  | [] => by simp [familyOf]
  | m :: ms => by
    have h : n ∈ familyOf (m :: ms) ↔ n ∈ family m ∨ n ∈ familyOf ms := List.mem_append
    rw [h, mem_family_iff m, mem_familyOf_iff ms]
    exact (List.exists_mem_cons_iff (fun m => ∃ b, m.Spans b ∧ b.id = n) m ms).symm

end

end Module

namespace Workspace

/-- A module is alive as long as the workspace holds it, its loader keeps it, or a module that is
alive imports it. -/
inductive Alive (w : Workspace) : Module → Prop where
  | held {name : String} {m : Module} (h : (name, m) ∈ w.handles) : Alive w m
  | kept {l : Loader} {m : Module} (hl : w.loader = some l) (h : m ∈ l.modules.values) : Alive w m
  | imported {m i : Module} (hm : Alive w m) (hi : i ∈ m.imports) : Alive w i

variable {w w' : Workspace} {m : Module} {name : String}

theorem mem_roots_iff : m ∈ w.roots ↔
    (∃ name, (name, m) ∈ w.handles) ∨ ∃ l, w.loader = some l ∧ m ∈ l.modules.values := by
  have hhandles : m ∈ w.handles.map (·.2) ↔ ∃ name, (name, m) ∈ w.handles := by simp
  unfold roots
  rw [List.mem_append, hhandles]
  cases w.loader with
  | none => simp
  | some l => simp

theorem alive_iff : w.Alive m ↔ ∃ r ∈ w.roots, r.Spans m := by
  constructor
  · intro h
    induction h with
    | held h => exact ⟨_, mem_roots_iff.mpr (.inl ⟨_, h⟩), .self _⟩
    | kept hl h => exact ⟨_, mem_roots_iff.mpr (.inr ⟨_, hl, h⟩), .self _⟩
    | imported _ hi ih =>
      obtain ⟨r, hr, hspans⟩ := ih
      exact ⟨r, hr, hspans.tail hi⟩
  · rintro ⟨r, hr, hspans⟩
    induction hspans with
    | refl =>
      rcases mem_roots_iff.mp hr with ⟨name, h⟩ | ⟨l, hl, h⟩
      · exact .held h
      · exact .kept hl h
    | tail _ hi ih => exact ih.imported hi

theorem alive_congr (h : w.roots = w'.roots) : w.Alive m ↔ w'.Alive m := by
  rw [alive_iff, alive_iff, h]

theorem mem_held_iff {n : Nat} : n ∈ w.held ↔ ∃ m, w.Alive m ∧ m.id = n := by
  unfold held
  rw [Module.mem_familyOf_iff]
  constructor
  · rintro ⟨r, hr, b, hb, rfl⟩
    exact ⟨b, alive_iff.mpr ⟨r, hr, hb⟩, rfl⟩
  · rintro ⟨m, hm, rfl⟩
    obtain ⟨r, hr, hspans⟩ := alive_iff.mp hm
    exact ⟨r, hr, m, hspans, rfl⟩

end Workspace

/-- The modules `met` are known by different numbers, with all that they import, those that are
`kept` are among them, and just the others were released. -/
structure Ledger (s : Store) (met kept : Module → Prop) : Prop where
  ahead : s.Ahead
  truthful : s.Truthful
  known : ∀ m, met m → s.Knows m
  imports : ∀ m i, met m → i ∈ m.imports → met i
  distinct : ∀ m n, met m → met n → m.id = n.id → m = n
  among : ∀ m, kept m → met m
  released : ∀ m, met m → (m.id ∈ s.released ↔ ¬ kept m)

namespace Ledger
variable {s t : Store} {met met' kept kept' new : Module → Prop} {w : Workspace} {m : Module}

theorem congr (h : Ledger s met kept) (hmet : ∀ m, met m ↔ met' m) (hkept : ∀ m, kept m ↔ kept' m) :
    Ledger s met' kept' := by
  have hm : met = met' := funext fun m => propext (hmet m)
  have hk : kept = kept' := funext fun m => propext (hkept m)
  rw [← hm, ← hk]
  exact h

/-- On the way from `s` to `t` no module was released, and what is in order stayed in order. -/
structure Holds (s t : Store) : Prop where
  numbers : s.nextId ≤ t.nextId
  released : t.released = s.released
  ahead : s.Ahead → t.Ahead
  truthful : s.Truthful → t.Truthful

theorem of_holds (h : Ledger s met kept) (hst : Holds s t) : Ledger t met kept where
  ahead := hst.ahead h.ahead
  truthful := hst.truthful h.truthful
  known m hm := (h.known m hm).mono hst.numbers
  imports := h.imports
  distinct := h.distinct
  among := h.among
  released m hm := by
    rw [hst.released]
    exact h.released m hm

theorem join (h : Ledger s met kept) (hst : Holds s t)
    (hnew : ∀ m, new m → t.Knows m ∧ s.nextId ≤ m.id)
    (himports : ∀ m i, new m → i ∈ m.imports → kept i ∨ new i)
    (hdistinct : ∀ m n, new m → new n → m.id = n.id → m = n) :
    Ledger t (fun m => met m ∨ new m) (fun m => kept m ∨ new m) := by
  -- the numbers of those that were met are below the new ones
  have hbelow : ∀ m n, met m → new n → m.id < n.id :=
    fun m n hm hn => Nat.lt_of_lt_of_le (h.known m hm).number (hnew n hn).2
  refine ⟨hst.ahead h.ahead, hst.truthful h.truthful, ?_, ?_, ?_, ?_, ?_⟩
  · rintro m (hm | hm)
    · exact (h.known m hm).mono hst.numbers
    · exact (hnew m hm).1
  · rintro m i (hm | hm) hi
    · exact .inl (h.imports m i hm hi)
    · exact (himports m i hm hi).imp_left (h.among i)
  · rintro m n (hm | hm) (hn | hn) hid
    · exact h.distinct m n hm hn hid
    · exact absurd hid (Nat.ne_of_lt (hbelow m n hm hn))
    · exact absurd hid (Nat.ne_of_gt (hbelow n m hn hm))
    · exact hdistinct m n hm hn hid
  · exact fun m hm => hm.imp_left (h.among m)
  · rw [hst.released]
    rintro m (hm | hm)
    · have hold : ¬ new m := fun hn => Nat.lt_irrefl _ (hbelow m m hm hn)
      rw [h.released m hm, or_iff_left hold]
    · have hheld := (h.ahead m.id (hnew m hm).2).held
      exact iff_of_false hheld fun hk => hk (.inr hm)

theorem letGo (h : Ledger s met kept) {ids : List Nat} (hkept : ∀ m, kept' m → kept m)
    (hids : ∀ n, n ∈ ids ↔ ∃ m, kept m ∧ ¬ kept' m ∧ m.id = n) :
    Ledger { s with released := s.released ++ ids } met kept' := by
  have hbound : ∀ n ∈ ids, n < s.nextId := by
    intro n hn
    obtain ⟨m, hm, -, rfl⟩ := (hids n).mp hn
    exact (h.known m (h.among m hm)).number
  refine ⟨Store.runLaw_ahead.release hbound h.ahead,
    Store.runLaw_truthful.release hbound h.truthful,
    fun m hm => (h.known m hm).mono (Nat.le_refl _), h.imports, h.distinct,
    fun m hm => h.among m (hkept m hm), ?_⟩
  intro m hm
  have hreleased := h.released m hm
  rw [List.mem_append, hreleased, hids]
  constructor
  · rintro (hnot | ⟨n, hn, hnot, hid⟩)
    · exact fun hm' => hnot (hkept m hm')
    · rw [← h.distinct n m (h.among n hn) hm hid]
      exact hnot
  · intro hnot
    by_cases hk : kept m
    · exact .inr ⟨m, hk, hnot, rfl⟩
    · exact .inl hk

theorem release (h : Ledger w.store met kept) {ids : List Nat} (hw : ∀ m, w.Alive m → kept m)
    (hids : ∀ m, kept m → m.id ∈ ids ∨ w.Alive m) (hkept : ∀ n ∈ ids, ∃ m, kept m ∧ m.id = n) :
    Ledger (w.release ids).store met (w.release ids).Alive := by
  have halive : ∀ m, w.Alive m ↔ (w.release ids).Alive m := fun m => Workspace.alive_congr rfl
  refine (h.letGo hw fun n => ?_).congr (fun _ => .rfl) halive
  rw [List.mem_filter, decide_eq_true_eq, Workspace.mem_held_iff]
  constructor
  · rintro ⟨hn, hnot⟩
    obtain ⟨m, hm, rfl⟩ := hkept n hn
    exact ⟨m, hm, fun ha => hnot ⟨m, ha, rfl⟩, rfl⟩
  · rintro ⟨m, hm, hnot, rfl⟩
    refine ⟨(hids m hm).resolve_right hnot, ?_⟩
    rintro ⟨m', ha, hid⟩
    rw [h.distinct m' m (h.among m' (hw m' ha)) (h.among m hm) hid] at ha
    exact hnot ha

theorem drop (h : Ledger w.store met w.Alive) {w' : Workspace} (hs : w'.store = w.store)
    (hw : ∀ m, w'.Alive m → w.Alive m) :
    Ledger (w'.release w.held).store met (w'.release w.held).Alive := by
  have h' : Ledger w'.store met w.Alive := hs ▸ h
  refine h'.release hw (fun m hm => .inl (Workspace.mem_held_iff.mpr ⟨m, hm, rfl⟩)) ?_
  exact fun n hn => Workspace.mem_held_iff.mp hn

theorem hold (h : Ledger w.store met kept) (hw : ∀ n, w.Alive n → kept n)
    (hkept : ∀ n, kept n → w.Alive n ∨ n = m) (hm : kept m)
    (himports : ∀ n i, kept n → i ∈ n.imports → kept i) (name : String) :
    Ledger (w.hold name m).store met (w.hold name m).Alive := by
  let w' : Workspace := { w with handles := (name, m) :: w.otherHandles name }
  have h' : Ledger w'.store met kept := h
  have hhold : w'.Alive m := .held List.mem_cons_self
  have hless : ∀ n, w'.Alive n → kept n := by
    intro n hn
    induction hn with
    | held hn =>
      rcases List.mem_cons.mp hn with heq | hn
      · cases heq
        exact hm
      · exact hw _ (.held (List.mem_of_mem_filter hn))
    | kept hl hn => exact hw _ (.kept hl hn)
    | imported _ hi ih => exact himports _ _ ih hi
  refine h'.release hless (fun n hn => ?_) fun n hn => ?_
  · rcases hkept n hn with hn | rfl
    · exact .inl (Workspace.mem_held_iff.mpr ⟨n, hn, rfl⟩)
    · exact .inr hhold
  · obtain ⟨n', hn', hid⟩ := Workspace.mem_held_iff.mp hn
    exact ⟨n', hw n' hn', hid⟩

end Ledger

end InfoModel

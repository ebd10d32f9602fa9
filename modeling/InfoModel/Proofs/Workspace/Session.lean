import InfoModel.Proofs.Loader.Growth
import InfoModel.Proofs.Workspace.Ledger

/-!
# Sessions

In a session modules are built and loaded, held under names and let go, and whatever stands in a
module that was met may be asked about at any time, whether the module is still alive or not: who
has a definition in hand keeps it. Main statements: `Session.Run.sound`, by which what a session has
released is just what is not alive in it, and `Session.Run.law`.
-/

namespace InfoModel

/-- A workspace and the modules that were met there so far. -/
structure Session where
  workspace : Workspace
  met : Module → Prop

namespace Session

def fresh (setup : Setup) : Session := ⟨.fresh setup, fun _ => False⟩

def enter (x : Session) (w : Workspace) : Session := ⟨w, fun m => x.met m ∨ w.Alive m⟩

/-- What may happen in a session. Only modules that are alive can be held or imported; what was met
can be asked about also when its module is not alive any longer. A further loader would do no more
than build modules and hold them. -/
inductive Step (x : Session) : Session → Prop where
  | ask {m : Module} {q : Query} (hm : x.met m) (hq : q.Of m) :
      Step x (x.enter (x.workspace.run q.request).2)
  | hold (name : String) {m : Module} (hm : x.workspace.Alive m) :
      Step x (x.enter (x.workspace.hold name m))
  | drop (name : String) : Step x (x.enter (x.workspace.drop name))
  | dropLoader : Step x (x.enter x.workspace.dropLoader)
  | build (name : String) (d : ModuleDecl) (location : Option Uri) {imports : List Module}
      (himports : ∀ i ∈ imports, x.workspace.Alive i) :
      Step x (x.enter (x.workspace.build name d location imports).2)
  | addDocument (location : Uri) (d : ModuleDecl) :
      Step x (x.enter (x.workspace.addDocument location d))
  | load (name : String) (location : Uri) : Step x (x.enter (x.workspace.load name location).2)
  | takeJournal : Step x (x.enter x.workspace.takeJournal.2)

def Run : Session → Session → Prop := Relation.ReflTransGen Step

/-- What is met stays met, what is released is what is not alive, and the loader is in order. -/
structure Sound (x : Session) : Prop where
  ledger : Ledger x.workspace.store x.met x.workspace.Alive
  loader : ∀ l, x.workspace.loader = some l → Loading.Coherent x.workspace.setup Uri.join
    (fun _ _ => True) ⟨l.modules, x.workspace.store⟩

variable {x y : Session} {t : Store}

inductive Asks (x : Session) : Store → Prop where
  | query {m : Module} {q : Query} (hm : x.met m) (hq : q.Of m) :
      Asks x (q.request x.workspace.store).2
  | build (d : ModuleDecl) (location : Option Uri) {imports : List Module}
      (himports : ∀ i ∈ imports, x.workspace.Alive i) :
      Asks x (Module.build x.workspace.setup d location imports x.workspace.store).2
  | load {l : Loader} (hl : x.workspace.loader = some l) (location : Uri) :
      Asks x (l.load x.workspace.setup location x.workspace.store).2.2
  | forget : Asks x { x.workspace.store with journal := [] }
  | nothing : Asks x x.workspace.store

theorem Step.exists_asks (h : x.Step y) : ∃ t ids, x.Asks t ∧
    y.workspace.store = { t with released := t.released ++ ids } := by
  have hnone : ∀ s : Store, s = { s with released := s.released ++ [] } := by
    intro s
    rw [List.append_nil]
  cases h with
  | ask hm hq => exact ⟨_, [], .query hm hq, hnone _⟩
  | hold name hm => exact ⟨_, _, .nothing, rfl⟩
  | drop name => exact ⟨_, _, .nothing, rfl⟩
  | dropLoader => exact ⟨_, _, .nothing, rfl⟩
  | @build name d location imports himports =>
    have hasks := Asks.build d location himports
    unfold Workspace.build Workspace.run
    cases hb : Module.build x.workspace.setup d location imports x.workspace.store with
    | mk outcome t =>
      rw [hb] at hasks
      cases outcome with
      | ok m => exact ⟨t, _, hasks, rfl⟩
      | error e => exact ⟨t, [], hasks, hnone t⟩
  | addDocument location d => exact ⟨_, [], .nothing, hnone _⟩
  | load name location =>
    unfold Workspace.load
    cases hl : x.workspace.loader with
    | none => exact ⟨_, [], .nothing, hnone _⟩
    | some l =>
      have hasks := Asks.load hl location
      dsimp only
      cases hload : l.load x.workspace.setup location x.workspace.store with
      | mk outcome rest =>
        obtain ⟨l', t⟩ := rest
        rw [hload] at hasks
        cases outcome with
        | ok m => exact ⟨t, _, hasks, rfl⟩
        | error e => exact ⟨t, [], hasks, hnone t⟩
  | takeJournal => exact ⟨_, [], .forget, hnone _⟩

theorem Sound.knows_of_alive (hx : x.Sound) {m : Module} (hm : x.workspace.Alive m) :
    x.workspace.store.Knows m := hx.ledger.known m (hx.ledger.among m hm)

theorem Asks.law (hx : x.Sound) {R : Store → Store → Prop} (hr : Store.LoadLaw R)
    (hforget : ∀ s : Store, R s { s with journal := [] }) (h : x.Asks t) :
    R x.workspace.store t := by
  cases h with
  | query hm hq =>
    refine hr.request ?_ _
    rw [hq.home]
    exact (hx.ledger.known _ hm).built
  | build d location himports =>
    exact hr.of_build (fun i hi => hx.knows_of_alive (himports i hi)) rfl
  | load hl location =>
    exact hr.load (fun m hm => hx.knows_of_alive (.kept hl hm)) Uri.join _ location
  | forget => exact hforget _
  | nothing => exact hr.refl _

theorem loadLaw_released : Store.LoadLaw fun s t => t.released = s.released where
  toLaw := Store.law_released.of_all fun h hi => h.of_import hi
  numbered _ := rfl
  loaded _ _ _ := rfl

theorem Asks.holds (hx : x.Sound) (h : x.Asks t) : Ledger.Holds x.workspace.store t where
  numbers := h.law hx Store.runLaw_numbers.toLoadLaw fun _ => Nat.le_refl _
  released := h.law hx loadLaw_released fun _ => rfl
  ahead := h.law hx Store.runLaw_ahead.toLoadLaw fun _ hs n hn => ⟨(hs n hn).held, (hs n hn).fates⟩
  truthful := h.law hx Store.runLaw_truthful.toLoadLaw fun _ hs => hs

theorem sound_fresh (setup : Setup) : (fresh setup).Sound := by
  have hnone : ∀ m, ¬ (Workspace.fresh setup).Alive m := by
    intro m hm
    induction hm with
    | held h => exact absurd h List.not_mem_nil
    | kept hl h =>
      cases hl
      exact absurd h List.not_mem_nil
    | imported _ _ ih => exact ih
  refine ⟨⟨Store.ahead_empty, Store.truthful_empty, fun _ h => h.elim, fun _ _ h => h.elim,
    fun _ _ h => h.elim, hnone, fun _ h => h.elim⟩, ?_⟩
  intro l hl
  cases hl
  exact .empty _

theorem ledger_enter {w : Workspace} {met : Module → Prop} (h : Ledger w.store met w.Alive)
    (hmet : ∀ m, x.met m → met m) (hnew : ∀ m, met m → x.met m ∨ w.Alive m) :
    Ledger w.store (x.enter w).met w.Alive :=
  h.congr (fun m => ⟨hnew m, fun hm => hm.elim (hmet m) (h.among m)⟩) fun _ => .rfl

theorem ledger_enter_same {w : Workspace} (h : Ledger w.store x.met w.Alive) :
    Ledger w.store (x.enter w).met w.Alive :=
  ledger_enter h (fun _ hm => hm) fun _ hm => .inl hm

theorem Sound.of_loader (hx : x.Sound) {w : Workspace} (hs : w.setup = x.workspace.setup)
    (hn : x.workspace.store.nextId ≤ w.store.nextId)
    (hl : ∀ l, w.loader = some l → ∃ l', x.workspace.loader = some l' ∧ l.modules = l'.modules)
    (h : Ledger w.store (x.enter w).met w.Alive) : (x.enter w).Sound := by
  refine ⟨h, fun l hw => ?_⟩
  obtain ⟨l', hx', hm⟩ := hl l hw
  show Loading.Coherent w.setup _ _ ⟨l.modules, w.store⟩
  rw [hs, hm]
  exact (hx.loader l' hx').later hn

theorem Sound.of_asks (hx : x.Sound) (h : x.Asks t) :
    (x.enter { x.workspace with store := t }).Sound := by
  have hst := h.holds hx
  have halive : ∀ m, x.workspace.Alive m ↔ ({ x.workspace with store := t } : Workspace).Alive m :=
    fun m => Workspace.alive_congr rfl
  refine hx.of_loader rfl hst.numbers (fun l hl => ⟨l, hl, rfl⟩) (ledger_enter_same ?_)
  exact (hx.ledger.of_holds hst).congr (fun _ => .rfl) halive

theorem Sound.hold (hx : x.Sound) {m : Module} (hm : x.workspace.Alive m) (name : String) :
    (x.enter (x.workspace.hold name m)).Sound := by
  have hledger := hx.ledger.hold (m := m) (fun _ hn => hn) (fun _ hn => .inl hn) hm
    (fun _ _ hn hi => hn.imported hi) name
  exact hx.of_loader rfl (Nat.le_refl _) (fun l hl => ⟨l, hl, rfl⟩) (ledger_enter_same hledger)

theorem Sound.drop (hx : x.Sound) (name : String) : (x.enter (x.workspace.drop name)).Sound := by
  have hless : ∀ m, ({ x.workspace with handles := x.workspace.otherHandles name } :
      Workspace).Alive m → x.workspace.Alive m := by
    intro m hm
    induction hm with
    | held h => exact .held (List.mem_of_mem_filter h)
    | kept hl h => exact .kept hl h
    | imported _ hi ih => exact ih.imported hi
  exact hx.of_loader rfl (Nat.le_refl _) (fun l hl => ⟨l, hl, rfl⟩)
    (ledger_enter_same (hx.ledger.drop rfl hless))

theorem Sound.dropLoader (hx : x.Sound) : (x.enter x.workspace.dropLoader).Sound := by
  have hless : ∀ m, ({ x.workspace with loader := none } : Workspace).Alive m →
      x.workspace.Alive m := by
    intro m hm
    induction hm with
    | held h => exact .held h
    | kept hl h => cases hl
    | imported _ hi ih => exact ih.imported hi
  exact hx.of_loader rfl (Nat.le_refl _) (fun l hl => by cases hl)
    (ledger_enter_same (hx.ledger.drop rfl hless))

theorem Sound.build (hx : x.Sound) (name : String) (d : ModuleDecl) (location : Option Uri)
    {imports : List Module} (himports : ∀ i ∈ imports, x.workspace.Alive i) :
    (x.enter (x.workspace.build name d location imports).2).Sound := by
  have hasks := Asks.build d location himports
  unfold Workspace.build Workspace.run
  cases hb : Module.build x.workspace.setup d location imports x.workspace.store with
  | mk outcome t =>
    rw [hb] at hasks
    cases outcome with
    | error e => exact hx.of_asks hasks
    | ok m =>
      have hst := hasks.holds hx
      have ha := Module.assemble_of_build hb
      have hid : x.workspace.store.nextId ≤ m.id := Nat.le_of_eq (Module.id_of_assemble ha).symm
      have hknown : t.Knows m :=
        .of_build (fun i hi => hx.knows_of_alive (himports i hi)) hb
      have hm : ∀ i ∈ m.imports, x.workspace.Alive i := by
        rw [Module.imports_of_assemble ha]
        exact himports
      -- the new module joins those that are kept before the workspace holds it
      have hjoined : Ledger t (fun n => x.met n ∨ n = m)
          (fun n => x.workspace.Alive n ∨ n = m) := by
        refine hx.ledger.join hst ?_ ?_ ?_
        · rintro n rfl
          exact ⟨hknown, hid⟩
        · rintro n i rfl hi
          exact .inl (hm i hi)
        · rintro n n' rfl rfl -
          rfl
      let w : Workspace := { x.workspace with store := t }
      have halive : ∀ n, w.Alive n ↔ x.workspace.Alive n := fun n => Workspace.alive_congr rfl
      have hledger : Ledger (w.hold name m).store (fun n => x.met n ∨ n = m)
          (w.hold name m).Alive := by
        refine Ledger.hold (w := w) hjoined (fun n hn => .inl ((halive n).mp hn))
          (fun n hn => hn.imp_left (halive n).mpr) (.inr rfl) ?_ name
        rintro n i (hn | rfl) hi
        · exact .inl (hn.imported hi)
        · exact .inl (hm i hi)
      have hself : (w.hold name m).Alive m := .held List.mem_cons_self
      refine hx.of_loader rfl hst.numbers (fun l hl => ⟨l, hl, rfl⟩)
        (ledger_enter hledger (fun _ hn => .inl hn) fun n hn => hn.imp_right ?_)
      rintro rfl
      exact hself

theorem alive_of_load {w : Workspace} {l l' : Loader} {t : Store} {new : List Module}
    (hl : w.loader = some l) (hvalues : l'.modules.values = l.modules.values ++ new)
    (himports : ∀ m i, m ∈ l'.modules.values → i ∈ m.imports → i ∈ l'.modules.values) (m : Module) :
    ({ w with loader := some l', store := t } : Workspace).Alive m ↔ w.Alive m ∨ m ∈ new := by
  have hmem : ∀ n, n ∈ l'.modules.values ↔ n ∈ l.modules.values ∨ n ∈ new := by
    intro n
    rw [hvalues, List.mem_append]
  have hkept : ∀ n, n ∈ l'.modules.values → w.Alive n ∨ n ∈ new :=
    fun n hn => ((hmem n).mp hn).imp_left (.kept hl)
  constructor
  · intro hm
    induction hm with
    | held h => exact .inl (.held h)
    | kept hl' h =>
      cases hl'
      exact hkept _ h
    | imported _ hi ih =>
      rcases ih with hn | hn
      · exact .inl (hn.imported hi)
      · exact hkept _ (himports _ _ ((hmem _).mpr (.inr hn)) hi)
  · rintro (hm | hm)
    · induction hm with
      | held h => exact .held h
      | kept hl' h =>
        cases hl.symm.trans hl'
        exact .kept rfl ((hmem _).mpr (.inl h))
      | imported _ hi ih => exact ih.imported hi
    · exact .kept rfl ((hmem m).mpr (.inr hm))

theorem Sound.load (hx : x.Sound) (name : String) (location : Uri) :
    (x.enter (x.workspace.load name location).2).Sound := by
  unfold Workspace.load
  cases hl : x.workspace.loader with
  | none => exact hx.of_asks .nothing
  | some l =>
    have hst := (Asks.load hl location).holds hx
    obtain ⟨hcoherent, ⟨new, hvalues, hnew⟩, hgives⟩ :=
      Loader.exists_new_of_load (fun _ _ _ => trivial) (hx.loader l hl) location
    change Ledger.Holds _ (l.loadWith Uri.join x.workspace.setup location x.workspace.store).2.2
      at hst
    dsimp only
    unfold Loader.load
    cases hload : l.loadWith Uri.join x.workspace.setup location x.workspace.store with
    | mk outcome rest =>
      obtain ⟨l', t⟩ := rest
      rw [hload] at hcoherent hvalues hnew hgives hst
      let w : Workspace := { x.workspace with loader := some l', store := t }
      have himports : ∀ m i, m ∈ l'.modules.values → i ∈ m.imports → i ∈ l'.modules.values :=
        fun _ _ hm hi => hcoherent.mem_of_import hm hi
      have halive := alive_of_load (t := t) hl hvalues himports
      have hin : ∀ m ∈ new, m ∈ l'.modules.values := by
        intro m hm
        rw [hvalues]
        exact List.mem_append_right _ hm
      have hledger : Ledger w.store (fun m => x.met m ∨ m ∈ new) w.Alive := by
        refine (hx.ledger.join hst hnew (fun m i hm hi => ?_) fun m n hm hn hid => ?_).congr
          (fun _ => .rfl) fun m => (halive m).symm
        · exact (halive i).mp (.kept rfl (himports m i (hin m hm) hi))
        · exact hcoherent.eq_of_id (hin m hm) (hin n hn) hid
      cases outcome with
      | error e =>
        show (x.enter w).Sound
        refine ⟨ledger_enter hledger (fun _ hm => .inl hm) fun m hm => hm.imp_right ?_, ?_⟩
        · exact fun hm => .kept rfl (hin m hm)
        · rintro _ ⟨⟩
          exact hcoherent
      | ok m =>
        show (x.enter (w.hold name m)).Sound
        have hm : w.Alive m := .kept rfl (hgives m rfl)
        have hheld := hledger.hold (m := m) (fun _ hn => hn) (fun _ hn => .inl hn) hm
          (fun _ _ hn hi => hn.imported hi) name
        refine ⟨ledger_enter hheld (fun _ hn => .inl hn) fun n hn => hn.imp_right ?_, ?_⟩
        · exact fun hn => .kept rfl (hin n hn)
        · rintro _ ⟨⟩
          exact hcoherent.later (Nat.le_refl _)

theorem Sound.step (hx : x.Sound) (h : x.Step y) : y.Sound := by
  cases h with
  | ask hm hq => exact hx.of_asks (.query hm hq)
  | hold name hm => exact hx.hold hm name
  | drop name => exact hx.drop name
  | dropLoader => exact hx.dropLoader
  | build name d location himports => exact hx.build name d location himports
  | addDocument location d =>
    have halive : ∀ m, x.workspace.Alive m ↔ (x.workspace.addDocument location d).Alive m := by
      intro m
      refine Workspace.alive_congr ?_
      unfold Workspace.roots Workspace.addDocument
      cases x.workspace.loader <;> rfl
    refine hx.of_loader rfl (Nat.le_refl _) (fun l hl => ?_)
      (ledger_enter_same (hx.ledger.congr (fun _ => .rfl) halive))
    obtain ⟨l', hl', rfl⟩ := Option.map_eq_some_iff.mp hl
    exact ⟨l', hl', rfl⟩
  | load name location => exact hx.load name location
  | takeJournal => exact hx.of_asks .forget

/-- In every run of a session what was met and is not alive is what was released. -/
theorem Run.sound {setup : Setup} (h : Run (fresh setup) x) : x.Sound := by
  induction h with
  | refl => exact sound_fresh setup
  | tail _ hstep ih => exact ih.step hstep

theorem Run.sound_of (h : x.Run y) (hx : x.Sound) : y.Sound := by
  induction h with
  | refl => exact hx
  | tail _ hstep ih => exact ih.step hstep

theorem Step.met (h : x.Step y) {m : Module} (hm : x.met m) : y.met m := by
  cases h <;> exact .inl hm

theorem Run.met (h : x.Run y) {m : Module} (hm : x.met m) : y.met m := by
  induction h with
  | refl => exact hm
  | tail _ hstep ih => exact hstep.met ih

theorem Step.law (hx : x.Sound) {R : Store → Store → Prop} (hr : Store.RunLaw R)
    (hforget : ∀ s : Store, R s { s with journal := [] }) (h : x.Step y) :
    R x.workspace.store y.workspace.store := by
  have hy := hx.step h
  obtain ⟨t, ids, hasks, hstore⟩ := h.exists_asks
  have hbound : ∀ n ∈ ids, n < t.nextId := by
    intro n hn
    have hin : n ∈ y.workspace.store.released := by
      rw [hstore]
      exact List.mem_append_right _ hn
    refine Nat.lt_of_not_le fun hle => (hy.ledger.ahead n ?_).held hin
    rw [hstore]
    exact hle
  rw [hstore]
  exact hr.trans (hasks.law hx hr.toLoadLaw hforget) (hr.release hbound)

theorem Run.law (hx : x.Sound) {R : Store → Store → Prop} (hr : Store.RunLaw R)
    (hforget : ∀ s : Store, R s { s with journal := [] }) (h : x.Run y) :
    R x.workspace.store y.workspace.store := by
  induction h with
  | refl => exact hr.refl _
  | tail hrun hstep ih => exact hr.trans ih (hstep.law (Run.sound_of hrun hx) hr hforget)

end Session

end InfoModel

import InfoModel.Proofs.Resolution.Completeness
import InfoModel.Proofs.Workspace.Session

/-!
# What is left of a released module

A definition may outlive its module. What was built of it stays; what was not built by then is
refused from then on, unless it is empty and needs no module. Main statement:
`Session.release_semantics`.
-/

namespace InfoModel

namespace Store

theorem runLaw_remembers : RunLaw Remembers where
  toLaw := law_remembers.of_all fun h hi => h.of_import hi
  numbered _ _ _ h := h
  loaded _ _ _ _ _ h := h
  release _ _ _ h := h

theorem runLaw_released : RunLaw fun s t => ∀ n ∈ s.released, n ∈ t.released where
  refl _ _ h := h
  trans h₁ h₂ n h := h₂ n (h₁ n h)
  imports h hi := h.of_import hi
  consult _ s n h := by
    rw [(law_released.consult trivial s : _ = _)]
    exact h
  note _ _ _ _ h := h
  built _ _ h := h
  refused _ _ _ h := h
  numbered _ _ h := h
  loaded _ _ _ _ h := h
  release _ _ h := List.mem_append_left _ h

/-- The module of the part was released before anyone asked for the part. If the part needs its
module it is not built any more, and else it is not refused. -/
structure Orphaned (s : Store) (a : Aggregate) : Prop where
  released : a.part.slot.home ∈ s.released
  fate : ∀ fate, s.fate? a.part.slot = some fate →
    fate = if a.part.needsModule then .refused else .built

variable {s t : Store} {m : Module} {a : Aggregate}

theorem Orphaned.of_eq (h : s.Orphaned a) (hr : ∀ n ∈ s.released, n ∈ t.released)
    (hf : t.fate? a.part.slot = s.fate? a.part.slot) : t.Orphaned a := by
  refine ⟨hr _ h.released, fun fate ht => h.fate fate ?_⟩
  rw [← hf]
  exact ht

theorem Orphaned.fst_get (h : s.Orphaned a) : (a.part.get s).1 =
    if a.part.needsModule then .error (.released a.part.definition.text)
    else a.part.build.outcome := by
  have hget : a.part.get s = s.demand a.part := rfl
  cases hn : a.part.needsModule with
  | true =>
    have hfate := h.fate
    rw [hn] at hfate
    cases hf : s.fate? a.part.slot with
    | none => simp [hget, demand, hf, hn, h.released]
    | some fate =>
      cases hfate fate hf
      rw [hget, demand_of_refused hf]
      rfl
  | false =>
    have hfate := h.fate
    rw [hn] at hfate
    cases hf : s.fate? a.part.slot with
    | none => simp [hget, demand, hf, hn]
    | some fate =>
      cases hfate fate hf
      rw [hget, demand_of_built hf]
      rfl

theorem askLaw_orphaned {G : Module → Prop} (hg : Apart G) (hm : G m) (ha : m.Has a) :
    AskLaw G fun s t => s.Orphaned a → t.Orphaned a where
  trans h₁ h₂ h := h₂ (h₁ h)
  quiet hq h := by
    obtain ⟨published, journal, rfl⟩ := hq.records
    exact ⟨h.released, h.fate⟩
  demand {n b _ p} hn hb hp s h := by
    -- a part in the same slot is this part
    have hsame : p.slot = a.part.slot → p.needsModule = a.part.needsModule := by
      intro hslot
      have hba : b = a := hg n m b a hn hm hb ha (hp.slot.symm.trans hslot)
      rw [hp.needs, hba]
    rcases demand_cases p s with ⟨_, -, hd⟩ | ⟨-, hneeds, -, hd⟩ | ⟨-, hneeds, hd⟩
    · rw [hd]
      exact h
    · rw [hd]
      refine ⟨h.released, fun fate hf => ?_⟩
      rw [fate?_settle] at hf
      split at hf
      · rename_i hslot
        rw [← hsame hslot, hneeds, if_pos rfl]
        exact (Option.some.inj hf).symm
      · exact h.fate fate hf
    · have hrecords := records_trace p.build.trace s
      rw [hd]
      refine ⟨?_, fun fate hf => ?_⟩
      · obtain ⟨published, journal, ht⟩ := hrecords
        rw [ht]
        exact h.released
      · rw [fate?_settle] at hf
        split at hf
        · rename_i hslot
          have hfree : ¬ a.part.needsModule = true := by
            rw [← hsame hslot]
            exact fun hp => hneeds hp (hslot ▸ h.released)
          rw [if_neg hfree]
          exact (Option.some.inj hf).symm
        · rw [hrecords.fate?_eq] at hf
          exact h.fate fate hf

end Store

/-- Only the model of an assembly without children and the alternatives of a group without any need
no module. -/
theorem Aggregate.needsModule_eq_false_iff (a : Aggregate) : a.part.needsModule = false ↔
    (∃ d, a = .model d ∧ d.decl.model = []) ∨ ∃ g, a = .alternatives g ∧ g.alternatives = [] := by
  cases a with
  | assemblyFlags d => exact iff_of_false Bool.noConfusion (by simp)
  | fieldFlags d => exact iff_of_false Bool.noConfusion (by simp)
  | constraints k d => exact iff_of_false Bool.noConfusion (by simp)
  | model d =>
    have h : (Aggregate.model d).part.needsModule = !d.decl.model.isEmpty := rfl
    rw [h]
    simp
  | alternatives g =>
    have h : (Aggregate.alternatives g).part.needsModule = !g.alternatives.isEmpty := rfl
    rw [h]
    simp

theorem Placed.outcome_model_of_nil {d : Placed .assembly} (h : d.decl.model = []) :
    d.model.build.outcome = .ok ⟨[]⟩ := by
  show d.buildModel.outcome = _
  unfold buildModel
  rw [h]
  rfl

theorem ChoiceGroup.outcome_content_of_nil {g : ChoiceGroup} (h : g.alternatives = []) :
    g.content.build.outcome = .ok ⟨[]⟩ := by
  show g.buildAlternatives.outcome = _
  unfold buildAlternatives
  rw [h]
  rfl

namespace Session
variable {x y : Session} {t : Store} {m : Module} {a : Aggregate}

theorem Sound.apart (hx : x.Sound) : Store.Apart x.met := by
  intro m n a b hm hn ha hb hslot
  have hid : m.id = n.id := by
    rw [← ha.slot_home, ← hb.slot_home, hslot]
  have hmn := hx.ledger.distinct m n hm hn hid
  subst hmn
  exact ha.eq_of_slot (hx.ledger.known m hm).built hb hslot

theorem Asks.orphaned (hx : x.Sound) (hm : x.met m) (ha : m.Has a) (h : x.Asks t)
    (ho : x.workspace.store.Orphaned a) : t.Orphaned a := by
  have hr := (h.holds hx).released
  have hreleased : ∀ n ∈ x.workspace.store.released, n ∈ t.released := fun n hn => hr ▸ hn
  have hslot : a.part.slot.home < x.workspace.store.nextId := by
    rw [ha.slot_home]
    exact (hx.ledger.known m hm).number
  cases h with
  | query hn hq => exact (Store.askLaw_orphaned hx.apart hm ha).request hn hq _ ho
  | build d location himports => exact ho.of_eq hreleased (Store.fate?_build rfl hslot)
  | @load l hl location =>
    have hspares := @Loader.spares_loadWith x.workspace.setup Uri.join l x.workspace.store location
      fun m hm => hx.knows_of_alive (.kept hl hm)
    exact ho.of_eq hreleased (hspares.fates _ hslot)
  | forget => exact ho.of_eq hreleased rfl
  | nothing => exact ho

theorem Run.orphaned (hx : x.Sound) (hm : x.met m) (ha : m.Has a) (h : x.Run y)
    (ho : x.workspace.store.Orphaned a) : y.workspace.store.Orphaned a := by
  induction h with
  | refl => exact ho
  | tail hrun hstep ih =>
    obtain ⟨t, ids, hasks, hstore⟩ := hstep.exists_asks
    have ht := hasks.orphaned (Run.sound_of hrun hx) (Run.met hrun hm) ha ih
    rw [hstore]
    exact ht.of_eq (fun n hn => List.mem_append_left _ hn) rfl

/-- What was asked for while its module was alive was built. -/
theorem Sound.fate?_of_alive (hx : x.Sound) (hm : x.met m) (ha : m.Has a)
    (halive : x.workspace.Alive m) (hf : (x.workspace.store.fate? a.part.slot).isSome) :
    x.workspace.store.fate? a.part.slot = some .built := by
  obtain ⟨fate, hfate⟩ := Option.isSome_iff_exists.mp hf
  cases fate with
  | built => exact hfate
  | refused =>
    have hr := hx.ledger.truthful _ hfate
    rw [ha.slot_home] at hr
    exact absurd halive ((hx.ledger.released m hm).mp hr)

theorem Run.get_of_built (hx : x.Sound) (h : x.Run y)
    (hf : x.workspace.store.fate? a.part.slot = some .built) :
    a.part.get y.workspace.store = (a.part.build.outcome, y.workspace.store) :=
  Store.demand_of_built (h.law hx Store.runLaw_remembers (fun _ _ _ hf => hf) _ _ hf)

theorem Sound.homeOf (hx : x.Sound) {k : Kind} {d : Placed k} (hd : x.met d.home) :
    (x.workspace.Alive d.home →
      d.homeOf x.workspace.store = (.ok d.home, x.workspace.store)) ∧
    (¬ x.workspace.Alive d.home →
      d.homeOf x.workspace.store = (.error (.released d.name.text), x.workspace.store)) := by
  have hr := hx.ledger.released d.home hd
  have hhome : d.homeOf x.workspace.store =
      (if x.workspace.store.released.contains d.home.id then
        throw (.released d.name.text) else pure d.home : Request Module) x.workspace.store :=
    stateful_get _ _
  rw [hhome]
  refine ⟨fun halive => ?_, fun hdead => ?_⟩
  · have hnot : ¬ x.workspace.store.released.contains d.home.id = true := by
      rw [List.contains_iff_mem]
      exact fun hin => hr.mp hin halive
    rw [if_neg hnot]
    rfl
  · rw [if_pos (List.contains_iff_mem.mpr (hr.mpr hdead))]
    rfl

/-- In every session a module that was met is alive until it is released: as long as it is held, the
loader keeps it, or a module that is alive imports it. A definition gives its module if it is alive,
and else says that the module was released. To ask for something makes no module live longer, and no
released module comes back. A part that is asked for while its module is alive gives what its
building gives; if it was asked for by then, it gives the same ever after and changes nothing. A
part that was not asked for until its module was released is refused, whenever it is asked for and
also again, with a fault that names its definition; only the model of an assembly without children
and the alternatives of a group without any are empty all the same. What stands in a place is the
same definition at any time, with its names, its scope, its datatype and default, its documentation
and its source, whether its module is alive or not. -/
theorem release_semantics {setup : Setup} (hx : Run (fresh setup) x) :
    (∀ m, x.met m → (m.id ∈ x.workspace.store.released ↔ ¬ x.workspace.Alive m)) ∧
    (∀ k (d : Placed k), x.met d.home →
      (x.workspace.Alive d.home →
        d.homeOf x.workspace.store = (.ok d.home, x.workspace.store)) ∧
      (¬ x.workspace.Alive d.home →
        d.homeOf x.workspace.store = (.error (.released d.name.text), x.workspace.store))) ∧
    (∀ (q : Query) m, (x.workspace.run q.request).2.Alive m ↔ x.workspace.Alive m) ∧
    (∀ m a, x.met m → m.Has a → x.workspace.Alive m →
      (a.part.get x.workspace.store).1 = a.part.build.outcome ∧
        ((a.part.get x.workspace.store).2.fate? a.part.slot).isSome) ∧
    (∀ y, x.Run y →
      (∀ m, x.met m → ¬ x.workspace.Alive m → ¬ y.workspace.Alive m) ∧
      (∀ m a, x.met m → m.Has a →
        (x.workspace.Alive m → (x.workspace.store.fate? a.part.slot).isSome →
          a.part.get y.workspace.store = (a.part.build.outcome, y.workspace.store)) ∧
        (¬ x.workspace.Alive m → x.workspace.store.fate? a.part.slot = none →
          (a.part.get y.workspace.store).1 =
            if a.part.needsModule then .error (.released a.part.definition.text)
            else a.part.build.outcome)) ∧
      ∀ m n z z', x.met m → y.met n → m.Reached z → n.Reached z' → z'.home.id = z.home.id →
        z'.site = z.site → z' = z) ∧
    (∀ a : Aggregate, a.part.needsModule = false ↔
      (∃ d, a = .model d ∧ d.decl.model = []) ∨ ∃ g, a = .alternatives g ∧ g.alternatives = []) ∧
    (∀ d : Placed .assembly, d.decl.model = [] → d.model.build.outcome = .ok ⟨[]⟩) ∧
    ∀ g : ChoiceGroup, g.alternatives = [] → g.content.build.outcome = .ok ⟨[]⟩ := by
  have hsound := hx.sound
  have hreleased := hsound.ledger.released
  refine ⟨hreleased, fun k d hd => hsound.homeOf hd, fun q m => Workspace.alive_congr rfl,
    fun m a hm ha halive => ?_, fun y hy => ⟨?_, ?_, ?_⟩, Aggregate.needsModule_eq_false_iff,
    fun d hd => Placed.outcome_model_of_nil hd, fun g hg => ChoiceGroup.outcome_content_of_nil hg⟩
  · have hheld : m.id ∉ x.workspace.store.released := fun hr => (hreleased m hm).mp hr halive
    have hclear := hsound.ledger.truthful.clear hheld
    rw [← ha.slot_home] at hclear
    exact ⟨Store.fst_demand hclear, Store.fate?_demand a.part x.workspace.store⟩
  · intro m hm hdead
    have hstays := hy.law hsound Store.runLaw_released fun _ _ h => h
    have hr := hstays m.id ((hreleased m hm).mpr hdead)
    exact ((Run.sound_of hy hsound).ledger.released m (Run.met hy hm)).mp hr
  · intro m a hm ha
    refine ⟨fun halive hf => ?_, fun hdead hf => ?_⟩
    · exact Run.get_of_built hsound hy (hsound.fate?_of_alive hm ha halive hf)
    · have ho : x.workspace.store.Orphaned a := by
        refine ⟨?_, fun fate hfate => ?_⟩
        · rw [ha.slot_home]
          exact (hreleased m hm).mpr hdead
        · rw [hf] at hfate
          contradiction
      exact (Run.orphaned hsound hm ha hy ho).fst_get
  · intro m n z z' hm hn hz hz' hid hsite
    have hy' := Run.sound_of hy hsound
    rw [hz.home, hz'.home] at hid
    have hnm : n = m := hy'.ledger.distinct n m hn (Run.met hy hm) hid
    subst hnm
    exact hz'.eq_of_site (hy'.ledger.known n hn).built hz hsite

end Session

namespace Sample

def holdingBoxes : Session :=
  (Session.fresh setup).enter ((Workspace.fresh setup).build "boxes" boxesDecl none []).2

def droppedBoxes : Session := holdingBoxes.enter (holdingBoxes.workspace.drop "boxes")

theorem run_droppedBoxes : Session.Run (Session.fresh setup) droppedBoxes := by
  have hbuild : Session.Run (Session.fresh setup) holdingBoxes :=
    .single (.build "boxes" boxesDecl none fun _ hi => absurd hi List.not_mem_nil)
  exact hbuild.tail (.drop "boxes")

end Sample

namespace Session

theorem release_semantics_boxes :
    Run (fresh Sample.setup) Sample.droppedBoxes ∧
      ∃ box ∈ Sample.boxes.own .assembly,
        (box.model.get Sample.droppedBoxes.workspace.store).1 =
          .error (.released "Q\x7burn:parts\x7dbox") := by
  have hrun := Sample.run_droppedBoxes
  obtain ⟨hreleased, -, -, -, hlater, -⟩ := release_semantics hrun
  have hmet : Sample.droppedBoxes.met Sample.boxes := .inl (.inr (.held List.mem_cons_self))
  have hdead := (hreleased Sample.boxes hmet).mp List.mem_cons_self
  obtain ⟨-, hparts, -⟩ := hlater _ .refl
  have hown : ∃ box, box ∈ Sample.boxes.own .assembly ∧ box.model.needsModule = true ∧
      box.name.text = "Q\x7burn:parts\x7dbox" := ⟨_, List.mem_cons_self, rfl, rfl⟩
  obtain ⟨box, hbox, hneeds, hname⟩ := hown
  have hhas : Sample.boxes.Has (.model box) :=
    ⟨.definition .assembly box, .model, .of_own hbox, rfl⟩
  obtain ⟨-, hrefused⟩ := hparts Sample.boxes (.model box) hmet hhas
  have hget := hrefused hdead rfl
  rw [show (Aggregate.model box).part.needsModule = true from hneeds, if_pos rfl] at hget
  refine ⟨hrun, box, hbox, ?_⟩
  rw [← hname]
  exact hget

end Session

end InfoModel

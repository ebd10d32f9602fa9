import InfoModel.Collection.Memo
import InfoModel.Proofs.Query.Once
import Mathlib.Logic.Function.Basic

/-!
# The store serves queries as cells would

A store holds no contents. It answers as if there were a cell for each slot, filled when its part is
first asked for with the part's content or its fault, and a cell for the tables of each module, made
from what the cells of its imports hold when it is first looked into. Cells give out what they were
filled with ever after: slots tell parts apart and numbers tell modules apart, so what a cell holds
is always what is asked for, and what a building finds on its way is what the cells of tables hold
by then. Main statement: `Store.serve_agrees`.
-/

namespace InfoModel

abbrev Filled := (a : Aggregate) × a.Content

def Aggregate.filled (a : Aggregate) : Except ModelFault Filled :=
  a.part.build.outcome.map fun c => ⟨a, c⟩

abbrev Tables := (k : Kind) → NamedMap QName (Placed k)

def Module.tables (m : Module) : Tables := fun k => m.exports k

/-- A cell for each part, by its slot, and a cell for the tables of each module, by its number. -/
structure Cells where
  parts : Slot → Memo ModelFault Filled
  tables : Nat → Option Tables

abbrev Answered := (q : Query) × Except ModelFault q.Answer

namespace Cells

def keepPart (c : Cells) (a : Aggregate) : Cells :=
  { c with parts := Function.update c.parts a.part.slot ⟨some a.filled⟩ }

def keepTables (c : Cells) (id : Nat) (t : Tables) : Cells :=
  { c with tables := Function.update c.tables id (some t) }

mutual

/-- Reads the tables of a module. If they are not there yet, they are made from those of its
imports, which are read first. -/
def read (c : Cells) : Module → Tables × Cells
  | ⟨info, imports⟩ =>
    match c.tables info.id with
    | some t => (t, c)
    | none =>
      let inherited := readAll c (fun _ => .empty) imports
      let t : Tables := fun k =>
        (Module.publish (inherited.1 k) (Module.shared ⟨info, imports⟩ k)).1
      (t, inherited.2.keepTables info.id t)

def readAll (c : Cells) (into : Tables) : List Module → Tables × Cells
  | [] => (into, c)
  | m :: ms =>
    let given := read c m
    readAll given.2 (fun k => Module.inherit (into k) (given.1 k)) ms

end

def take (c : Cells) : Step → Cells
  | .look m .. => (c.read m).2
  | .notice _ => c

/-- What a step of a building finds is what the cells hold. -/
def Tells (c : Cells) : Step → Prop
  | .look m k name found => found = ((c.read m).1 k).get? name
  | .notice _ => True

/-- The steps are taken one after the other, and each finds what the cells hold by then. -/
inductive Follows : Cells → List Step → Cells → Prop where
  | nil (c : Cells) : Follows c [] c
  | cons {c d : Cells} {step : Step} {steps : List Step} :
      c.Tells step → Follows (c.take step) steps d → Follows c (step :: steps) d

/-- A part is asked for. Its cell gives what it holds, or it is filled by building the part. -/
inductive Gets (c : Cells) (a : Aggregate) : Except ModelFault a.Content → Cells → Prop where
  | kept {outcome : Except ModelFault a.Content} :
      (c.parts a.part.slot).outcome? = some (outcome.map fun x => ⟨a, x⟩) → Gets c a outcome c
  | built {d : Cells} :
      (c.parts a.part.slot).outcome? = none → c.Follows a.part.build.trace d →
      Gets c a a.part.build.outcome (d.keepPart a)

/-- Parts are asked for one after the other, up to the first fault. -/
inductive Resolves : Cells → List (Part Unit) → Except ModelFault Unit → Cells → Prop where
  | nil (c : Cells) : Resolves c [] (.ok ()) c
  | next {c d e : Cells} {a : Aggregate} {x : a.Content} {ps : List (Part Unit)}
      {outcome : Except ModelFault Unit} :
      c.Gets a (.ok x) d → Resolves d ps outcome e → Resolves c (a.task :: ps) outcome e
  | fault {c d : Cells} {a : Aggregate} {ps : List (Part Unit)} {f : ModelFault} :
      c.Gets a (.error f) d → Resolves c (a.task :: ps) (.error f) d

/-- A query is answered from the cells. -/
inductive Answers (c : Cells) : (q : Query) → Except ModelFault q.Answer → Cells → Prop where
  | aggregate {a : Aggregate} {outcome : Except ModelFault a.Content} {d : Cells} :
      c.Gets a outcome d → Answers c (.aggregate a) outcome d
  | assemblyKeyFlag {x : Placed .assembly} {outcome : Except ModelFault FlagSet} {d : Cells} :
      c.Gets (.assemblyFlags x) outcome d →
      Answers c (.assemblyKeyFlag x) (outcome.map FlagSet.jsonKeyFlag?) d
  | fieldKeyFlag {x : Placed .field} {outcome : Except ModelFault FlagSet} {d : Cells} :
      c.Gets (.fieldFlags x) outcome d →
      Answers c (.fieldKeyFlag x) (outcome.map FlagSet.jsonKeyFlag?) d
  | valueKeyFlag {x : Placed .field} {outcome : Except ModelFault FlagSet} {d : Cells} :
      c.Gets (.fieldFlags x) outcome d →
      Answers c (.valueKeyFlag x) (outcome.map x.definition.valueKeyFlag?) d
  | resolveDefinition {k : Kind} {x : Placed k} {outcome : Except ModelFault Unit} {d : Cells} :
      c.Resolves (Placed.parts k x) outcome d → Answers c (.resolveDefinition k x) outcome d
  | resolveModule {m : Module} {outcome : Except ModelFault Unit} {d : Cells} :
      c.Resolves m.parts outcome d → Answers c (.resolveModule m) outcome d
  | exported (m : Module) (k : Kind) :
      Answers c (.exported m k) (.ok ((c.read m).1 k).values) (c.read m).2
  | findExported (m : Module) (k : Kind) (name : QName) :
      Answers c (.findExported m k name) (.ok (((c.read m).1 k).get? name)) (c.read m).2
  | findVisible {m : Module} {k : Kind} {name : QName} {d : Cells} :
      c.Follows (m.find k name).trace d →
      Answers c (.findVisible m k name) (m.find k name).outcome d
  | resolveReference {m : Module} {k : Kind} {reference : String} {containing : QName} {d : Cells} :
      c.Follows (m.resolve k reference containing).trace d →
      Answers c (.resolveReference m k reference containing)
        (m.resolve k reference containing).outcome d

theorem Follows.unique {c d e : Cells} {steps : List Step} (hd : c.Follows steps d)
    (he : c.Follows steps e) : d = e := by
  induction hd with
  | nil c =>
    cases he
    rfl
  | cons _ _ ih =>
    cases he with
    | cons _ he => exact ih he

theorem Gets.unique {c d e : Cells} {a : Aggregate} {x y : Except ModelFault a.Content}
    (hx : c.Gets a x d) (hy : c.Gets a y e) : x = y ∧ d = e := by
  cases hx with
  | kept hx =>
    cases hy with
    | kept hy =>
      rw [hx, Option.some.injEq] at hy
      refine ⟨?_, rfl⟩
      cases x <;> cases y <;> simp_all [Except.map]
    | built hy _ =>
      rw [hx] at hy
      cases hy
  | built hx hd =>
    cases hy with
    | kept hy =>
      rw [hx] at hy
      cases hy
    | built _ he => exact ⟨rfl, congrArg (keepPart · a) (hd.unique he)⟩

inductive Serves : Cells → List Answered → Cells → Prop where
  | nil (c : Cells) : Serves c [] c
  | cons {c d e : Cells} {q : Query} {outcome : Except ModelFault q.Answer} {as : List Answered} :
      c.Answers q outcome d → Serves d as e → Serves c (⟨q, outcome⟩ :: as) e

end Cells

namespace Store

def serve (s : Store) : List Query → List Answered × Store
  | [] => ([], s)
  | q :: qs =>
    let (outcome, t) := q.request s
    let (as, u) := serve t qs
    (⟨q, outcome⟩ :: as, u)

theorem snd_serve (s : Store) (qs : List Query) : (s.serve qs).2 = s.after qs := by
  induction qs generalizing s with
  | nil => rfl
  | cons q qs ih => exact ih (q.request s).2

/-- The cells hold what was built of the parts of modules with the property `G` and the tables that
were made of these modules, and nothing else of them. -/
structure Agrees (G : Module → Prop) (s : Store) (c : Cells) : Prop where
  parts : ∀ m a, G m → m.Has a → (c.parts a.part.slot).outcome? =
    if (s.fate? a.part.slot).isSome then some a.filled else none
  tables : ∀ m, G m → c.tables m.id = if m.id ∈ s.published then some m.tables else none

/-- No two parts of modules with the property `G` have the same slot. -/
def Apart (G : Module → Prop) : Prop :=
  ∀ m n a b, G m → G n → m.Has a → n.Has b → a.part.slot = b.part.slot → a = b

/-- Modules with the property `G` import only such modules, and neither two of them nor two of their
parts share a cell. -/
structure Separate (G : Module → Prop) : Prop where
  imports : ∀ m i, G m → i ∈ m.imports → G i
  modules : ∀ m n, G m → G n → m.id = n.id → m = n
  parts : Apart G

variable {G : Module → Prop} {s t : Store} {c : Cells} {m : Module} {a : Aggregate}

theorem exists_agrees (hg : Separate G) (s : Store) : ∃ c, s.Agrees G c := by
  -- a cell is filled with the one part that owns its slot, or the tables of the one module
  classical
  let Owned (slot : Slot) : Prop := ∃ a m, G m ∧ m.Has a ∧ a.part.slot = slot
  let Numbered (id : Nat) : Prop := ∃ m, G m ∧ m.id = id
  refine ⟨⟨fun slot => ⟨if h : (s.fate? slot).isSome ∧ Owned slot then some h.2.choose.filled
    else none⟩, fun id => if h : id ∈ s.published ∧ Numbered id then some h.2.choose.tables
    else none⟩, ?_, ?_⟩
  · intro m a hm ha
    dsimp only
    by_cases hf : (s.fate? a.part.slot).isSome = true
    · have h : (s.fate? a.part.slot).isSome ∧ Owned a.part.slot := ⟨hf, a, m, hm, ha, rfl⟩
      obtain ⟨n, hn, hb, hslot⟩ := h.2.choose_spec
      rw [dif_pos h, if_pos hf, hg.parts n m _ a hn hm hb ha hslot]
    · rw [dif_neg fun h => hf h.1, if_neg hf]
  · intro m hm
    dsimp only
    by_cases hp : m.id ∈ s.published
    · have h : m.id ∈ s.published ∧ Numbered m.id := ⟨hp, m, hm, rfl⟩
      obtain ⟨hn, hid⟩ := h.2.choose_spec
      rw [dif_pos h, if_pos hp, hg.modules _ m hn hm hid]
    · rw [dif_neg fun h => hp h.1, if_neg hp]

theorem Agrees.of_same (h : s.Agrees G c) (hf : ∀ slot, t.fate? slot = s.fate? slot)
    (hp : t.published = s.published) : t.Agrees G c := by
  refine ⟨fun m a hm ha => ?_, fun m hm => ?_⟩
  · rw [hf]
    exact h.parts m a hm ha
  · rw [hp]
    exact h.tables m hm

/-! ### Tables -/

/-- A table that was not there is kept, and the store knows of it. -/
theorem Agrees.keepTables (h : s.Agrees G c) (hg : Separate G) (hm : G m) :
    (s.publish m).Agrees G (c.keepTables m.id m.tables) := by
  refine ⟨h.parts, fun n hn => ?_⟩
  have hpublished : (s.publish m).published = m.id :: s.published := rfl
  have hkept : (c.keepTables m.id m.tables).tables = Function.update c.tables m.id _ := rfl
  rw [hpublished, hkept]
  by_cases hid : n.id = m.id
  · rw [hg.modules n m hn hm hid, Function.update_self, if_pos List.mem_cons_self]
  · rw [Function.update_of_ne hid, h.tables n hn]
    simp only [List.mem_cons, hid, false_or]

theorem readAll_agrees {ms : List Module}
    (himports : ∀ i ∈ ms, ∀ (s : Store) (c : Cells), s.Agrees G c →
      (c.read i).1 = i.tables ∧ (s.consult i).Agrees G (c.read i).2)
    (h : s.Agrees G c) (into : Tables) :
    (c.readAll into ms).1 = (fun k => Module.exportsOf k ms (into k)) ∧
      (s.consultAll ms).Agrees G (c.readAll into ms).2 := by
  induction ms generalizing s c into with
  | nil => exact ⟨rfl, h⟩
  | cons i is ih =>
    obtain ⟨hread, hconsult⟩ := himports i List.mem_cons_self s c h
    simp only [Cells.readAll, hread]
    exact ih (fun j hj => himports j (List.mem_cons_of_mem i hj)) hconsult _

theorem read_agrees (hg : Separate G) (hm : G m) (h : s.Agrees G c) :
    (c.read m).1 = m.tables ∧ (s.consult m).Agrees G (c.read m).2 := by
  induction m using Module.induct generalizing s c with
  | step m ih =>
    have hcell := h.tables m hm
    by_cases hp : m.id ∈ s.published
    · rw [if_pos hp] at hcell
      rw [consult_of_published hp]
      obtain ⟨info, imports⟩ := m
      have hkept : c.tables info.id = _ := hcell
      unfold Cells.read
      rw [hkept]
      exact ⟨rfl, h⟩
    · rw [if_neg hp] at hcell
      have hall := readAll_agrees (fun i hi s c h => ih i hi (hg.imports m i hm hi) h) h
        fun _ => .empty
      have hconsult : s.consult m = (s.consultAll m.imports).publish m :=
        consult_of_not_published hp
      rw [hconsult]
      obtain ⟨info, imports⟩ := m
      have hempty : c.tables info.id = none := hcell
      have htables : (fun k => (Module.publish (Module.exportsOf k imports .empty)
          (Module.shared ⟨info, imports⟩ k)).1) = Module.tables ⟨info, imports⟩ := rfl
      unfold Cells.read
      rw [hempty]
      simp only [hall.1, htables, true_and]
      exact hall.2.keepTables hg hm

/-! ### Buildings -/

/-- A step of a building in the module finds what the cells hold. -/
theorem take_agrees (hg : Separate G) (hm : G m) (h : s.Agrees G c) {step : Step}
    (hs : step.Fits m) :
    c.Tells step ∧ (s.take step).Agrees G (c.take step) := by
  cases step with
  | look i k name found =>
    obtain ⟨hi, rfl⟩ := hs
    obtain ⟨hread, hconsult⟩ := read_agrees hg (hg.imports m i hm hi) h
    refine ⟨?_, hconsult⟩
    show i.exported? k name = ((c.read i).1 k).get? name
    rw [hread]
    rfl
  | notice e => exact ⟨trivial, h.of_same (fun _ => rfl) rfl⟩

theorem follows_agrees (hg : Separate G) (hm : G m) (h : s.Agrees G c) {steps : List Step}
    (hs : ∀ step ∈ steps, step.Fits m) :
    ∃ d, c.Follows steps d ∧ (steps.foldl take s).Agrees G d := by
  induction steps generalizing s c with
  | nil => exact ⟨c, .nil c, h⟩
  | cons step steps ih =>
    obtain ⟨hstep, hrest⟩ := List.forall_mem_cons.mp hs
    obtain ⟨htells, htake⟩ := take_agrees hg hm h hstep
    obtain ⟨d, hd, hagrees⟩ := ih htake hrest
    exact ⟨d, .cons htells hd, hagrees⟩

/-! ### Parts -/

theorem Agrees.keepPart (h : s.Agrees G c) (hg : Separate G) (hm : G m) (ha : m.Has a) :
    (s.settle a.part.slot .built).Agrees G (c.keepPart a) := by
  refine ⟨fun n b hn hb => ?_, h.tables⟩
  have hkept : (c.keepPart a).parts = Function.update c.parts a.part.slot ⟨some a.filled⟩ := rfl
  rw [hkept]
  by_cases hslot : b.part.slot = a.part.slot
  · rw [hg.parts n m b a hn hm hb ha hslot, Function.update_self, fate?_settle, if_pos rfl]
    rfl
  · rw [Function.update_of_ne hslot, h.parts n b hn hb, fate?_settle, if_neg (Ne.symm hslot)]

theorem gets_agrees (hg : Separate G) (hm : G m) (ha : m.Has a) (hs : s.Clear m.id)
    (h : s.Agrees G c) :
    ∃ d, c.Gets a (a.part.get s).1 d ∧ (a.part.get s).2.Agrees G d := by
  have hcell := h.parts m a hm ha
  have hget : (a.part.get s).1 = a.part.build.outcome := fst_demand (ha.slot_home.symm ▸ hs)
  rw [hget]
  rcases demand_cases a.part s with ⟨fate, hf, hd⟩ | ⟨-, -, hr, -⟩ | ⟨hf, -, hd⟩
  · have hstore : (a.part.get s).2 = s := hd
    rw [hf] at hcell
    rw [hstore]
    exact ⟨c, .kept hcell, h⟩
  · exact absurd (ha.slot_home ▸ hr) hs.held
  · have hstore : (a.part.get s).2 = (a.part.build.trace.foldl take s).settle a.part.slot .built :=
      congrArg Prod.snd hd
    rw [hf] at hcell
    have hfits := a.of_part.fits.steps
    rw [ha.home] at hfits
    obtain ⟨d, hfollows, hagrees⟩ := follows_agrees hg hm h hfits
    rw [hstore]
    exact ⟨d.keepPart a, .built hcell hfollows, hagrees.keepPart hg hm ha⟩

theorem get_map (p : Part α) (f : α → β) (s : Store) :
    (p.map f).get s = ((p.get s).1.map f, (p.get s).2) := by
  have hslot : (p.map f).slot = p.slot := rfl
  have hneeds : (p.map f).needsModule = p.needsModule := rfl
  have hbuild : (p.map f).build = f <$> p.build := rfl
  simp only [Part.get, demand, hslot, hneeds, hbuild, Traced.outcome_map, Traced.trace_map]
  split
  · rfl
  · rfl
  · split
    · rfl
    · rfl

theorem resolves_agrees (hg : Separate G) (hm : G m) {ps : List (Part Unit)}
    (hps : ∀ p ∈ ps, ∃ a, m.Has a ∧ a.task = p) (hs : s.Clear m.id) (h : s.Agrees G c) :
    ∃ d, c.Resolves ps (ps.forM Part.get s).1 d ∧ (ps.forM Part.get s).2.Agrees G d := by
  induction ps generalizing s c with
  | nil => exact ⟨c, .nil c, h⟩
  | cons p ps ih =>
    obtain ⟨⟨a, ha, rfl⟩, hrest⟩ := List.forall_mem_cons.mp hps
    obtain ⟨d, hgets, hd⟩ := gets_agrees hg hm ha hs h
    have hu : s.Undisturbed (a.part.get s).2 := undisturbed_demand a.part s
    have htask : s.demand a.task = ((a.part.get s).1.map fun _ => (), (a.part.get s).2) :=
      get_map a.part (fun _ => ()) s
    rw [forM_get_cons, htask]
    cases hget : a.part.get s with
    | mk outcome t =>
      rw [hget] at hgets hd hu
      cases outcome with
      | ok x =>
        obtain ⟨e, hresolves, he⟩ := ih hrest (hu.clear m.id hs) hd
        exact ⟨e, .next hgets hresolves, he⟩
      | error f => exact ⟨d, .fault hgets, hd⟩

/-! ### Queries -/

theorem foldl_take_find (k : Kind) (name : QName) (m : Module) (s : Store) :
    (m.find k name).trace.foldl take s = s.consultAll (m.consulted k name) := by
  rw [Module.find_eq]
  induction m.consulted k name generalizing s with
  | nil => rfl
  | cons i is ih => exact ih (s.consult i)

theorem request_agrees (hg : Separate G) (hm : G m) {q : Query} (hq : q.Of m) (hs : s.Clear m.id)
    (h : s.Agrees G c) :
    ∃ d, c.Answers q (q.request s).1 d ∧ (q.request s).2.Agrees G d := by
  cases q with
  | aggregate a =>
    obtain ⟨d, hgets, hd⟩ := gets_agrees hg hm hq hs h
    exact ⟨d, .aggregate hgets, hd⟩
  | assemblyKeyFlag x =>
    obtain ⟨d, hgets, hd⟩ := gets_agrees hg hm hq hs h
    rw [Query.request, get_map]
    exact ⟨d, .assemblyKeyFlag hgets, hd⟩
  | fieldKeyFlag x =>
    obtain ⟨d, hgets, hd⟩ := gets_agrees hg hm hq hs h
    rw [Query.request, get_map]
    exact ⟨d, .fieldKeyFlag hgets, hd⟩
  | valueKeyFlag x =>
    obtain ⟨d, hgets, hd⟩ := gets_agrees hg hm hq hs h
    rw [Query.request, get_map]
    exact ⟨d, .valueKeyFlag hgets, hd⟩
  | resolveDefinition k x =>
    have hps : ∀ p ∈ Placed.parts k x, ∃ a, m.Has a ∧ a.task = p := by
      intro p hp
      obtain ⟨y, hy, r, a, ha, rfl⟩ :=
        (Occupant.mem_parts_iff (x := .definition k x)).mp hp
      exact ⟨a, ⟨y, r, hq.of_reflTransGen hy, ha⟩, rfl⟩
    obtain ⟨d, hresolves, hd⟩ := resolves_agrees hg hm hps hs h
    exact ⟨d, .resolveDefinition hresolves, hd⟩
  | resolveModule n =>
    cases hq
    obtain ⟨d, hresolves, hd⟩ :=
      resolves_agrees hg hm (fun p hp => Module.mem_parts_iff.mp hp) hs h
    rw [Query.request, resolveAll_eq]
    cases hf : m.parts.forM Part.get s with
    | mk outcome t =>
      rw [hf] at hresolves hd
      cases outcome with
      | ok _ => exact ⟨d, .resolveModule hresolves, hd.of_same (fun _ => rfl) rfl⟩
      | error e => exact ⟨d, .resolveModule hresolves, hd⟩
  | exported n k =>
    cases hq
    obtain ⟨hread, hd⟩ := read_agrees hg hm h
    have hanswer := Cells.Answers.exported (c := c) m k
    rw [hread] at hanswer
    exact ⟨_, hanswer, hd⟩
  | findExported n k name =>
    cases hq
    obtain ⟨hread, hd⟩ := read_agrees hg hm h
    have hanswer := Cells.Answers.findExported (c := c) m k name
    rw [hread] at hanswer
    exact ⟨_, hanswer, hd⟩
  | findVisible n k name =>
    cases hq
    have hfits : ∀ step ∈ (m.find k name).trace, step.Fits m := by
      rw [Module.find_eq]
      intro step hstep
      obtain ⟨i, hi, rfl⟩ := List.mem_map.mp hstep
      exact ⟨Module.mem_of_consulted hi, rfl⟩
    obtain ⟨d, hfollows, hd⟩ := follows_agrees hg hm h hfits
    rw [foldl_take_find] at hd
    have hanswer := Cells.Answers.findVisible hfollows
    rw [Module.find_eq] at hanswer
    exact ⟨d, hanswer, hd⟩
  | resolveReference n k reference containing =>
    cases hq
    have hfits := (m.fits_resolve k reference containing).steps
    obtain ⟨d, hfollows, hd⟩ := follows_agrees hg hm h hfits
    rw [Query.request, Module.snd_resolveReference, Module.fst_resolveReference]
    exact ⟨d, .resolveReference hfollows, hd⟩

/-- Whatever is asked, and however often, the store gives what the cells give, and goes on to agree
with them. -/
theorem serve_agrees (hg : Separate G) (hs : ∀ m, G m → s.Clear m.id) (h : s.Agrees G c)
    {qs : List Query} (hqs : ∀ q ∈ qs, ∃ m, G m ∧ q.Of m) :
    ∃ d, c.Serves (s.serve qs).1 d ∧ (s.serve qs).2.Agrees G d := by
  induction qs generalizing s c with
  | nil => exact ⟨c, .nil c, h⟩
  | cons q qs ih =>
    obtain ⟨⟨m, hm, hq⟩, hrest⟩ := List.forall_mem_cons.mp hqs
    obtain ⟨d, hanswers, hd⟩ := request_agrees hg hm hq (hs m hm) h
    have hu : s.Undisturbed (q.request s).2 := law_undisturbed.request trivial s
    obtain ⟨e, hserves, he⟩ := ih (fun n hn => hu.clear n.id (hs n hn)) hd hrest
    exact ⟨e, .cons hanswers hserves, he⟩

end Store

end InfoModel

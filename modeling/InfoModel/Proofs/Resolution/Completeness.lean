import InfoModel.Proofs.Resolution.Order
import InfoModel.Proofs.Store.History

/-!
# Full resolution is complete

To resolve a module is to ask for each part of what stands in it: the resolution succeeds if each of
these requests would, and otherwise it reports the fault of the first that would fail, by their
turns. After a resolution that succeeded, the parts are there and nothing more is noticed. Main
statement: `Module.resolveAll_complete`.
-/

namespace InfoModel

namespace Store
variable {s t : Store} {ps : List (Part Unit)}

theorem firstFault_cons (o : Except ModelFault Unit) (os : List (Except ModelFault Unit)) :
    firstFault (o :: os) = o >>= fun _ => firstFault os := rfl

theorem firstFault_eq_ok_iff :
    firstFault (outcomes ps) = .ok () ↔ ∀ p ∈ ps, p.build.outcome = .ok () := by
  induction ps with
  | nil => exact ⟨fun _ _ hp => absurd hp List.not_mem_nil, fun _ => rfl⟩
  | cons p ps ih =>
    show firstFault (p.build.outcome :: outcomes ps) = _ ↔ _
    rw [firstFault_cons, Except.bind_eq_ok_iff, List.forall_mem_cons, ← ih]
    exact ⟨fun ⟨_, hp, hps⟩ => ⟨hp, hps⟩, fun ⟨hp, hps⟩ => ⟨(), hp, hps⟩⟩

theorem firstFault_eq_error_iff {e : ModelFault} :
    firstFault (outcomes ps) = .error e ↔
      ∃ before p after, ps = before ++ p :: after ∧ p.build.outcome = .error e ∧
        ∀ q ∈ before, q.build.outcome = .ok () := by
  induction ps with
  | nil =>
    refine ⟨fun h => ?_, ?_⟩
    · cases h
    · rintro ⟨before, p, after, h, -⟩
      exact absurd h (by simp)
  | cons p ps ih =>
    show firstFault (p.build.outcome :: outcomes ps) = _ ↔ _
    rw [firstFault_cons, Except.bind_eq_error_iff]
    constructor
    · rintro (hp | ⟨_, hp, hps⟩)
      · exact ⟨[], p, ps, rfl, hp, fun _ hq => absurd hq List.not_mem_nil⟩
      · obtain ⟨before, q, after, rfl, hq, hb⟩ := ih.mp hps
        exact ⟨p :: before, q, after, rfl, hq, List.forall_mem_cons.mpr ⟨hp, hb⟩⟩
    · rintro ⟨before, q, after, h, hq, hb⟩
      cases before with
      | nil =>
        cases h
        exact .inl hq
      | cons p' before =>
        cases h
        obtain ⟨hp, hb⟩ := List.forall_mem_cons.mp hb
        exact .inr ⟨(), hp, ih.mpr ⟨before, q, after, rfl, hq, hb⟩⟩

theorem forM_get_of_built (h : ∀ p ∈ ps, s.demand p = (.ok (), s)) :
    ps.forM Part.get s = (.ok (), s) := by
  induction ps with
  | nil => rfl
  | cons p ps ih =>
    obtain ⟨hp, hps⟩ := List.forall_mem_cons.mp h
    rw [forM_get_cons, hp]
    exact ih hps

theorem settled_of_forM {m : Module} (hps : ∀ p ∈ ps, p.Of m)
    (h : ps.forM Part.get s = (.ok (), t)) : ∀ p ∈ ps, (t.fate? p.slot).isSome := by
  induction ps generalizing s with
  | nil => exact fun _ hp => absurd hp List.not_mem_nil
  | cons p ps ih =>
    obtain ⟨-, hps⟩ := List.forall_mem_cons.mp hps
    have hf := fate?_demand p s
    rw [forM_get_cons] at h
    cases hd : s.demand p with
    | mk outcome u =>
      rw [hd] at h hf
      cases outcome with
      | ok _ =>
        refine List.forall_mem_cons.mpr ⟨?_, ih hps h⟩
        obtain ⟨fate, hfate⟩ := Option.isSome_iff_exists.mp hf
        have hr : u.Remembers (ps.forM Part.get u).2 := law_remembers.forM trivial hps u
        have ht : t.fate? p.slot = some fate := by
          have hlater := hr p.slot fate hfate
          rw [show ps.forM Part.get u = _ from h] at hlater
          exact hlater
        rw [ht]
        rfl
      | error e => cases h

theorem demand_of_forM {m : Module} (hps : ∀ p ∈ ps, p.Of m) (hs : s.Clear m.id)
    (h : ps.forM Part.get s = (.ok (), t)) :
    ∀ p ∈ ps, t.fate? p.slot = some .built ∧ p.build.outcome = .ok () := by
  have hu : s.Undisturbed t := by
    have hl := law_undisturbed.forM trivial hps s
    rw [h] at hl
    exact hl
  have hok : ∀ p ∈ ps, p.build.outcome = .ok () := by
    refine firstFault_eq_ok_iff.mp ?_
    rw [← fst_forM hps hs, h]
  intro p hp
  refine ⟨?_, hok p hp⟩
  obtain ⟨fate, hfate⟩ := Option.isSome_iff_exists.mp (settled_of_forM hps h p hp)
  cases fate with
  | built => exact hfate
  | refused => exact absurd hfate ((hu.clear m.id hs).fates p.slot (hps p hp).home)

end Store

namespace Part

theorem outcome_forget_eq_ok_iff {p : Part α} :
    p.forget.build.outcome = .ok () ↔ ∃ c, p.build.outcome = .ok c := by
  rw [outcome_forget, Except.map_eq_ok_iff]
  exact exists_congr fun _ => and_iff_left rfl

theorem outcome_forget_eq_error_iff {p : Part α} {e : ModelFault} :
    p.forget.build.outcome = .error e ↔ p.build.outcome = .error e := by
  rw [outcome_forget, Except.map_eq_error_iff]

end Part

namespace Module
open Store

variable {m : Module} {s t : Store} {a : Aggregate}

theorem fst_get (hs : s.Clear m.id) (h : m.Has a) : (a.part.get s).1 = a.part.build.outcome :=
  fst_demand (h.slot_home.symm ▸ hs)

/-- The parts before one in the order of full resolution are those with smaller turns. -/
theorem mem_before_iff (hm : m.Built) {before after : List (Part Unit)} {p q : Part Unit}
    (h : m.parts = before ++ p :: after) :
    q ∈ before ↔ q ∈ m.parts ∧ q.slot.turn m < p.slot.turn m := by
  have hsorted := sorted_parts hm
  rw [h] at hsorted ⊢
  obtain ⟨-, hafter, hbefore⟩ := List.pairwise_append.mp hsorted
  constructor
  · intro hq
    exact ⟨List.mem_append_left _ hq, hbefore q hq p List.mem_cons_self⟩
  · rintro ⟨hq, hlt⟩
    rcases List.mem_append.mp hq with hq | hq
    · exact hq
    · rcases List.mem_cons.mp hq with rfl | hq
      · exact absurd hlt (List.lt_irrefl _)
      · exact absurd hlt (List.lt_asymm ((List.pairwise_cons.mp hafter).1 q hq))

theorem resolveAll_eq_ok_iff (hs : s.Clear m.id) :
    (m.resolveAll s).1 = .ok () ↔ ∀ a, m.Has a → ∃ c, (a.part.get s).1 = .ok c := by
  rw [fst_resolveAll hs, firstFault_eq_ok_iff]
  constructor
  · intro h a ha
    rw [fst_get hs ha]
    exact Part.outcome_forget_eq_ok_iff.mp (h a.task (mem_parts_iff.mpr ⟨a, ha, rfl⟩))
  · intro h p hp
    obtain ⟨a, ha, rfl⟩ := mem_parts_iff.mp hp
    have hc := h a ha
    rw [fst_get hs ha] at hc
    exact Part.outcome_forget_eq_ok_iff.mpr hc

theorem resolveAll_eq_error_iff (hm : m.Built) (hs : s.Clear m.id) {e : ModelFault} :
    (m.resolveAll s).1 = .error e ↔
      ∃ a, m.Has a ∧ (a.part.get s).1 = .error e ∧
        ∀ b, m.Has b → b.part.slot.turn m < a.part.slot.turn m →
          ∃ c, (b.part.get s).1 = .ok c := by
  rw [fst_resolveAll hs, firstFault_eq_error_iff]
  constructor
  · rintro ⟨before, p, after, hparts, he, hbefore⟩
    have hp : p ∈ m.parts := by
      rw [hparts]
      exact List.mem_append_right _ List.mem_cons_self
    obtain ⟨a, ha, rfl⟩ := mem_parts_iff.mp hp
    refine ⟨a, ha, ?_, ?_⟩
    · rw [fst_get hs ha]
      exact Part.outcome_forget_eq_error_iff.mp he
    · intro b hb hlt
      have htask : b.task ∈ m.parts := mem_parts_iff.mpr ⟨b, hb, rfl⟩
      rw [fst_get hs hb]
      exact Part.outcome_forget_eq_ok_iff.mp
        (hbefore b.task ((mem_before_iff hm hparts).mpr ⟨htask, hlt⟩))
  · rintro ⟨a, ha, he, hbefore⟩
    obtain ⟨before, after, hparts⟩ := List.append_of_mem (mem_parts_iff.mpr ⟨a, ha, rfl⟩)
    refine ⟨before, a.task, after, hparts, ?_, ?_⟩
    · rw [fst_get hs ha] at he
      exact Part.outcome_forget_eq_error_iff.mpr he
    · intro q hq
      obtain ⟨hmem, hlt⟩ := (mem_before_iff hm hparts).mp hq
      obtain ⟨b, hb, rfl⟩ := mem_parts_iff.mp hmem
      have hc := hbefore b hb hlt
      rw [fst_get hs hb] at hc
      exact Part.outcome_forget_eq_ok_iff.mpr hc

/-- After a resolution that succeeded the parts are there, and nothing is noticed but that the
module is resolved again. -/
theorem get_of_resolveAll (hs : s.Clear m.id) (h : m.resolveAll s = (.ok (), t)) :
    (∀ a, m.Has a → ∃ c, a.part.get t = (.ok c, t)) ∧
      m.resolveAll t = (.ok (), t.note [.resolvedModule m.shortName]) := by
  rw [resolveAll_eq] at h
  cases hp : m.parts.forM Part.get s with
  | mk outcome u =>
    rw [hp] at h
    cases outcome with
    | error e => cases h
    | ok _ =>
      have ht : u.note [.resolvedModule m.shortName] = t := (Prod.mk.inj h).2
      have hbuilt : ∀ p ∈ m.parts, t.fate? p.slot = some .built ∧ p.build.outcome = .ok () := by
        rw [← ht]
        exact fun p hmem => demand_of_forM (fun p hp => of_mem_parts hp) hs hp p hmem
      refine ⟨?_, ?_⟩
      · intro a ha
        obtain ⟨hf, ho⟩ := hbuilt a.task (mem_parts_iff.mpr ⟨a, ha, rfl⟩)
        obtain ⟨c, hc⟩ := Part.outcome_forget_eq_ok_iff.mp ho
        have hd : a.part.get t = (a.part.build.outcome, t) := demand_of_built hf
        exact ⟨c, hd.trans (by rw [hc])⟩
      · have hall : m.parts.forM Part.get t = (.ok (), t) := by
          refine forM_get_of_built fun p hp => ?_
          obtain ⟨hf, ho⟩ := hbuilt p hp
          rw [demand_of_built hf, ho]
        rw [resolveAll_eq, hall]

/-- The resolution of a module that was built and is held succeeds if every part of what stands in
the module at any depth can be had. If it fails, then with the fault of the part that cannot be had
and has the first turn; flags have their turns before fields and these before assemblies, each kind
in the order of declaration. After a resolution that succeeded every part is there, and nothing is
noticed any longer except that the module is resolved again. -/
theorem resolveAll_complete (hs : Run .empty s) (hm : s.Knows m) (hl : m.id ∉ s.released) :
    ((m.resolveAll s).1 = .ok () ↔ ∀ a, m.Has a → ∃ c, (a.part.get s).1 = .ok c) ∧
    (∀ e, (m.resolveAll s).1 = .error e ↔
      ∃ a, m.Has a ∧ (a.part.get s).1 = .error e ∧
        ∀ b, m.Has b → b.part.slot.turn m < a.part.slot.turn m →
          ∃ c, (b.part.get s).1 = .ok c) ∧
    (∃ setup id d location, assemble setup id d location m.imports = .ok m ∧
      ∀ k, (m.own k).map Placed.decl = d.definitionsOf k) ∧
    ∀ t, m.resolveAll s = (.ok (), t) →
      (∀ a, m.Has a → ∃ c, a.part.get t = (.ok c, t)) ∧
        m.resolveAll t = (.ok (), t.note [.resolvedModule m.shortName]) := by
  have hclear : s.Clear m.id := hs.clear hl
  refine ⟨resolveAll_eq_ok_iff hclear, fun e => resolveAll_eq_error_iff hm.built hclear, ?_,
    fun t => get_of_resolveAll hclear⟩
  cases hm.built with
  | intro assembled below older =>
    rw [imports_of_assemble assembled]
    exact ⟨_, _, _, _, assembled, decl_own_of_assemble assembled⟩

end Module

namespace Sample

def keyed (jsonKey : Option String) : NamedChildDecl :=
  .assembly ⟨none, none, none⟩ (.inline ⟨headed "part", none, none, jsonKey, [], [], none⟩)

/-- A box with two parts of one name; the first has a key in JSON that is none of its flags. -/
def boxesDecl : ModuleDecl :=
  ⟨"boxes", none, none, some "urn:parts", none, none, [], [],
    [⟨.assembly, (⟨headed "box", none, none, none, [],
      [.named (keyed (some "missing")), .named (keyed none)], none⟩ : AssemblyDecl)⟩]⟩

def boxes : Module := moduleOf 0 boxesDecl []

def boxesStore : Store := (Module.build setup boxesDecl none [] .empty).2

theorem run_boxes : Store.Run .empty boxesStore :=
  .single (.build (fun _ hi => absurd hi List.not_mem_nil) setup boxesDecl none)

theorem knows_boxes : boxesStore.Knows boxes := by
  have hb : Module.build setup boxesDecl none [] .empty = (.ok boxes, boxesStore) := rfl
  exact Store.Knows.of_build (fun _ hi => absurd hi List.not_mem_nil) hb

end Sample

namespace Module

theorem resolveAll_boxes :
    Store.Run .empty Sample.boxesStore ∧
      Sample.boxesStore.Knows Sample.boxes ∧
      Sample.boxes.id ∉ Sample.boxesStore.released ∧
      (Sample.boxes.resolveAll Sample.boxesStore).1 ≠ .ok () := by
  have hl : Sample.boxes.id ∉ Sample.boxesStore.released := List.not_mem_nil
  obtain ⟨hok, -, -, -⟩ := resolveAll_complete Sample.run_boxes Sample.knows_boxes hl
  have hpart : ∃ d, Sample.boxes.Has (.assemblyFlags d) ∧
      (d.assemblyFlags.get Sample.boxesStore).1 =
        .error (.invalidJsonKey "missing" "Q\x7burn:parts\x7dpart" "boxes") :=
    ⟨_, ⟨_, .flags, ⟨.assembly, _, List.mem_cons_self, .single (.inr List.mem_cons_self)⟩, rfl⟩,
      rfl⟩
  refine ⟨Sample.run_boxes, Sample.knows_boxes, hl, fun h => ?_⟩
  obtain ⟨d, hd, he⟩ := hpart
  obtain ⟨c, hc⟩ := hok.mp h _ hd
  exact absurd (he.symm.trans hc) (by simp)

end Module

end InfoModel

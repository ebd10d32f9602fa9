import InfoModel.Proofs.Query.Basic
import InfoModel.Proofs.Store.Journal

/-!
# What holds along queries

Whatever a query asks for, it makes tables of exports and notices events, which settles no part, and
it asks for parts of its module. A relation between stores that holds along both holds along every
query. Unlike `Store.Law` this tells which part is settled where. Main statements: `AskLaw.request`,
`AskLaw.after`.
-/

namespace InfoModel

namespace Store
variable {s t u : Store} {m : Module}

/-- Tables were made and events noticed, none of them about a part. -/
structure Quiet (s t : Store) : Prop where
  records : s.Records t
  notices : Notices (fun e => e.isOfPart = false) s t

theorem Quiet.refl (s : Store) : s.Quiet s := ⟨Records.refl s, .refl s⟩

theorem Quiet.trans (h₁ : s.Quiet t) (h₂ : t.Quiet u) : s.Quiet u :=
  ⟨h₁.records.trans h₂.records, h₁.notices.trans h₂.notices⟩

theorem isOfPart_of_isShadowing {e : Event} (h : e.isShadowing = true) : e.isOfPart = false := by
  rw [← Bool.not_eq_true]
  intro hp
  rw [Event.isShadowing_of_isOfPart hp] at h
  contradiction

theorem quiet_consult (m : Module) (s : Store) : s.Quiet (s.consult m) :=
  ⟨records_consult m s, (notices_consult m s).mono fun _ he => isOfPart_of_isShadowing he⟩

theorem quiet_note {e : Event} (he : e.isOfPart = false) (s : Store) : s.Quiet (s.note [e]) :=
  ⟨⟨_, _, rfl⟩, notices_note he s⟩

theorem quiet_consultAll (ms : List Module) (s : Store) : s.Quiet (s.consultAll ms) :=
  consultAll_induct Quiet.refl Quiet.trans (fun i _ s => quiet_consult i s) s

theorem quiet_trace {steps : List Step}
    (hs : ∀ a ∈ steps, ∃ i k name found, a = .look i k name found) (s : Store) :
    s.Quiet (steps.foldl take s) := by
  induction steps generalizing s with
  | nil => exact .refl s
  | cons a as ih =>
    obtain ⟨⟨i, k, name, found, rfl⟩, has⟩ := List.forall_mem_cons.mp hs
    exact (quiet_consult i s).trans (ih has (s.consult i))

/-- To resolve a reference tables are looked into, and nothing is noticed but on the way. -/
theorem every_resolve (m : Module) (k : Kind) (reference : String) (containing : QName) :
    (m.resolve k reference containing).Every (fun a => ∃ i k name found, a = .look i k name found)
      fun _ => True := by
  refine (Traced.Every.ofExcept fun _ _ => trivial).bind fun name =>
    Traced.Every.bind ?_ fun _ => ?_
  · rw [Module.find_eq]
    refine ⟨?_, fun _ _ => trivial⟩
    intro a ha
    obtain ⟨i, -, rfl⟩ := List.mem_map.mp ha
    exact ⟨i, k, name, _, rfl⟩
  · split
    · exact Traced.Every.pure _
    · exact Traced.Every.fail trivial

structure Views (p : Part α) (a : Aggregate) : Prop where
  slot : p.slot = a.part.slot
  needs : p.needsModule = a.part.needsModule
  trace : p.build.trace = a.part.build.trace

theorem Views.self (a : Aggregate) : Views a.part a := ⟨rfl, rfl, rfl⟩

theorem Views.map {p : Part α} {a : Aggregate} (h : Views p a) (f : α → β) : Views (p.map f) a :=
  ⟨h.slot, h.needs, (Traced.trace_map f p.build).trans h.trace⟩

/-- `R` holds on ways on which no part is settled, and where a part of a module with the property
`G` is asked for. -/
structure AskLaw (G : Module → Prop) (R : Store → Store → Prop) : Prop where
  trans : ∀ {s t u}, R s t → R t u → R s u
  quiet : ∀ {s t}, s.Quiet t → R s t
  demand : ∀ {m a} {α : Type} {p : Part α}, G m → m.Has a → Views p a → ∀ s, R s (s.demand p).2

namespace AskLaw
variable {G : Module → Prop} {R : Store → Store → Prop}

theorem refl (h : AskLaw G R) (s : Store) : R s s := h.quiet (.refl s)

theorem forM (h : AskLaw G R) (hm : G m) {ps : List (Part Unit)}
    (hps : ∀ p ∈ ps, ∃ a, m.Has a ∧ a.task = p) (s : Store) : R s (ps.forM Part.get s).2 := by
  induction ps generalizing s with
  | nil => exact h.refl s
  | cons p ps ih =>
    obtain ⟨⟨a, ha, rfl⟩, hrest⟩ := List.forall_mem_cons.mp hps
    have hd := h.demand hm ha ((Views.self a).map fun _ => ()) s
    rw [forM_get_cons]
    cases hs : s.demand a.task with
    | mk outcome t =>
      rw [show s.demand (a.part.map fun _ => ()) = _ from hs] at hd
      cases outcome with
      | ok _ => exact h.trans hd (ih hrest t)
      | error e => exact hd

theorem resolveAll (h : AskLaw G R) (hm : G m) (s : Store) : R s (m.resolveAll s).2 := by
  have hforM := h.forM hm (fun p hp => Module.mem_parts_iff.mp hp) s
  rw [resolveAll_eq]
  cases hf : m.parts.forM Part.get s with
  | mk outcome t =>
    rw [hf] at hforM
    cases outcome with
    | ok _ => exact h.trans hforM (h.quiet (quiet_note rfl t))
    | error e => exact hforM

/-- What holds along these ways holds along every query. -/
theorem request (h : AskLaw G R) (hm : G m) {q : Query} (hq : q.Of m) (s : Store) :
    R s (q.request s).2 := by
  cases q with
  | aggregate a => exact h.demand hm hq (Views.self a) s
  | assemblyKeyFlag d => exact h.demand hm hq ((Views.self (.assemblyFlags d)).map _) s
  | fieldKeyFlag d => exact h.demand hm hq ((Views.self (.fieldFlags d)).map _) s
  | valueKeyFlag d => exact h.demand hm hq ((Views.self (.fieldFlags d)).map _) s
  | resolveDefinition k d =>
    refine h.forM hm (fun p hp => ?_) s
    have hp : p ∈ (Occupant.definition k d).parts := hp
    obtain ⟨y, hy, r, a, ha, rfl⟩ := Occupant.mem_parts_iff.mp hp
    exact ⟨a, ⟨y, r, hq.of_reflTransGen hy, ha⟩, rfl⟩
  | resolveModule n =>
    cases hq
    exact h.resolveAll hm s
  | exported n k => exact h.quiet (quiet_consult n s)
  | findExported n k name => exact h.quiet (quiet_consult n s)
  | findVisible n k name => exact h.quiet (quiet_consultAll _ s)
  | resolveReference n k reference containing =>
    rw [Query.request, Module.snd_resolveReference]
    exact h.quiet (quiet_trace (every_resolve n k reference containing).steps s)

theorem after (h : AskLaw G R) {qs : List Query} (hqs : ∀ q ∈ qs, ∃ m, G m ∧ q.Of m) (s : Store) :
    R s (s.after qs) := by
  induction qs generalizing s with
  | nil => exact h.refl s
  | cons q qs ih =>
    obtain ⟨⟨m, hm, hq⟩, hrest⟩ := List.forall_mem_cons.mp hqs
    exact h.trans (h.request hm hq s) (ih hrest (q.request s).2)

end AskLaw

end Store

end InfoModel

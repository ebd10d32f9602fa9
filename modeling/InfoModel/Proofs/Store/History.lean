import InfoModel.Proofs.Building.Module
import InfoModel.Proofs.Loader.Trace
import InfoModel.Proofs.Visibility.Reference

/-!
# Runs of a store

A run is any sequence of requests to a store, with modules released in between. The modules that are
asked are known to the store; those that a request builds or loads are known afterwards. Main
statements: `RunLaw.run`, by which a relation that holds along each step holds along every run,
`Run.leads`, by which no table of exports is made twice, and `Run.ahead`, by which nothing is
remembered of numbers that were not given out.
-/

namespace InfoModel

namespace Store

/-- `R` holds along each step for modules that were built, where a number is given out, and where
the loading of a module is noticed. -/
structure LoadLaw (R : Store → Store → Prop) : Prop extends Law Module.Built R where
  numbered : ∀ s, R s s.numbered
  loaded : ∀ (name location : String) (s : Store), R s (s.note [.loadedModule name location])

/-- `R` holds along each step of loading and where modules are released. -/
structure RunLaw (R : Store → Store → Prop) : Prop extends LoadLaw R where
  release : ∀ {s : Store} {ids : List Nat}, (∀ n ∈ ids, n < s.nextId) →
    R s { s with released := s.released ++ ids }

theorem LoadLaw.of_build {R : Store → Store → Prop} (h : LoadLaw R) {s t : Store}
    {outcome : Except ModelFault Module} {setup : Setup} {d : ModuleDecl} {location : Option Uri}
    {imports : List Module} (himports : ∀ i ∈ imports, s.Knows i)
    (hb : Module.build setup d location imports s = (outcome, t)) : R s t :=
  h.build (h.numbered s) (fun _ ha => built_of_assemble himports ha) hb

theorem runLaw_leads : RunLaw Leads where
  toLaw := law_leads
  numbered := leads_numbered
  loaded _ _ s := leads_note rfl s
  release _ := ⟨[], Makes.of_silent rfl rfl (Nat.le_refl _)⟩

theorem runLaw_numbers : RunLaw fun s t => s.nextId ≤ t.nextId where
  refl _ := Nat.le_refl _
  trans := Nat.le_trans
  imports h hi := h.of_import hi
  consult h s := (leads_consult h s).numbers
  note he _ s := (leads_note he s).numbers
  built _ := Nat.le_refl _
  refused _ _ := Nat.le_refl _
  numbered _ := Nat.le_succ _
  loaded _ _ _ := Nat.le_refl _
  release _ := Nat.le_refl _

theorem runLaw_ahead : RunLaw fun s t => s.Ahead → t.Ahead where
  toLaw := law_ahead.of_all fun h hi => h.of_import hi
  numbered _ h := h.numbered
  loaded _ _ s h := h.of_undisturbed (undisturbed_note s _)
  release hids h n hn := by
    obtain ⟨hheld, hfates⟩ := h n hn
    refine ⟨?_, hfates⟩
    intro hmem
    rcases List.mem_append.mp hmem with hmem | hmem
    · exact hheld hmem
    · exact absurd (hids n hmem) (Nat.not_lt.mpr hn)

theorem runLaw_truthful : RunLaw fun s t => s.Truthful → t.Truthful where
  toLaw := law_truthful.of_all fun h hi => h.of_import hi
  numbered _ h := h
  loaded _ _ _ h := h
  release _ h slot hf := List.mem_append_left _ (h slot hf)

end Store

namespace Loading

def Known (s : LoadState) : Prop := Held Store.Knows s

theorem preserves_knows {R : Store → Store → Prop} (h : Store.LoadLaw R) (setup : Setup) :
    Preserves (fun _ => True) Store.Knows (fun s t => R s t ∧ s.nextId ≤ t.nextId) setup where
  refl s := ⟨h.refl s, Nat.le_refl _⟩
  trans h₁ h₂ := ⟨h.trans h₁.1 h₂.1, Nat.le_trans h₁.2 h₂.2⟩
  inv _ hs := hs
  good hst hm := hm.mono hst.2
  build _ himports hb := ⟨h.of_build himports hb, Store.runLaw_numbers.of_build himports hb⟩
  result _ himports hb := Store.Knows.of_build himports hb
  loaded name location s := ⟨h.loaded name location s, Nat.le_refl _⟩

end Loading

namespace Store

inductive Access : Store → Store → Prop where
  | exported {s : Store} {m : Module} (h : s.Knows m) (k : Kind) : Access s (m.exported k s).2
  | findExported {s : Store} {m : Module} (h : s.Knows m) (k : Kind) (name : QName) :
      Access s (m.findExported k name s).2
  | findVisible {s : Store} {m : Module} (h : s.Knows m) (k : Kind) (name : QName) :
      Access s (m.findVisible k name s).2
  | resolveReference {s : Store} {m : Module} (h : s.Knows m) (k : Kind) (reference : String)
      (containing : QName) : Access s (m.resolveReference k reference containing s).2
  | assemblyFlags {s : Store} {d : Placed .assembly} (h : s.Knows d.home) :
      Access s (d.assemblyFlags.get s).2
  | fieldFlags {s : Store} {d : Placed .field} (h : s.Knows d.home) :
      Access s (d.fieldFlags.get s).2
  | model {s : Store} {d : Placed .assembly} (h : s.Knows d.home) : Access s (d.model.get s).2
  | alternatives {s : Store} {g : ChoiceGroup} (h : s.Knows g.owner.home) :
      Access s (g.content.get s).2
  | constraints {s : Store} {k : Kind} {d : Placed k} (h : s.Knows d.home) :
      Access s (d.constraints.get s).2
  | resolveDefinition {s : Store} {k : Kind} {d : Placed k} (h : s.Knows d.home) :
      Access s (d.resolveAll s).2
  | resolveModule {s : Store} {m : Module} (h : s.Knows m) : Access s (m.resolveAll s).2
  | build {s : Store} {imports : List Module} (h : ∀ i ∈ imports, s.Knows i) (setup : Setup)
      (d : ModuleDecl) (location : Option Uri) :
      Access s (Module.build setup d location imports s).2
  | load {s : Store} {l : Loader} (h : ∀ m ∈ l.modules.values, s.Knows m)
      (join : Uri → String → Option Uri) (setup : Setup) (location : Uri) :
      Access s (l.loadWith join setup location s).2.2
  | release {s : Store} {ids : List Nat} (h : ∀ n ∈ ids, n < s.nextId) :
      Access s { s with released := s.released ++ ids }

/-- Any number of requests, one after the other. -/
def Run : Store → Store → Prop := Relation.ReflTransGen Access

theorem LoadLaw.load {R : Store → Store → Prop} (h : LoadLaw R) {s : Store} {l : Loader}
    (hl : ∀ m ∈ l.modules.values, s.Knows m) (join : Uri → String → Option Uri) (setup : Setup)
    (location : Uri) : R s (l.loadWith join setup location s).2.2 :=
  ((Loading.preserves_knows h setup).load trivial hl location).1.1

theorem RunLaw.access {R : Store → Store → Prop} (hr : RunLaw R) {s t : Store} (h : Access s t) :
    R s t := by
  cases h with
  | exported h k => exact hr.consult h.built s
  | findExported h k name => exact hr.consult h.built s
  | findVisible h k name =>
    exact hr.consultAll (fun i hi => h.built.of_import (Module.mem_of_consulted hi)) s
  | resolveReference h k reference containing =>
    rw [Module.snd_resolveReference]
    exact hr.trace h.built (Module.fits_resolve _ k reference containing).steps s
  | assemblyFlags h => exact hr.demand h.built (Placed.of_assemblyFlags _) s
  | fieldFlags h => exact hr.demand h.built (Placed.of_fieldFlags _) s
  | model h => exact hr.demand h.built (Placed.of_model _) s
  | alternatives h => exact hr.demand h.built (ChoiceGroup.of_content _) s
  | constraints h => exact hr.demand h.built (Placed.of_constraints _) s
  | resolveDefinition h => exact hr.forM h.built (fun p hp => Placed.of_mem_parts hp) s
  | resolveModule h => exact hr.resolveAll h.built s
  | build h setup d location => exact hr.of_build h rfl
  | load h join setup location => exact hr.load h join setup location
  | release h => exact hr.release h

/-- What holds along each step holds along every run. -/
theorem RunLaw.run {R : Store → Store → Prop} (hr : RunLaw R) {s t : Store} (h : Run s t) :
    R s t := by
  induction h with
  | refl => exact hr.refl s
  | tail _ hstep ih => exact hr.trans ih (hr.access hstep)

/-- In a run no table of exports is made twice, and shadowing is noticed with these tables only. -/
theorem Run.leads {s t : Store} (h : Run s t) : s.Leads t := runLaw_leads.run h

theorem Run.ahead {s t : Store} (hs : s.Ahead) (h : Run s t) : t.Ahead := runLaw_ahead.run h hs

theorem Run.clear {s : Store} (h : Run .empty s) {n : Nat} (hn : n ∉ s.released) : s.Clear n :=
  (runLaw_truthful.run h truthful_empty).clear hn

end Store

end InfoModel

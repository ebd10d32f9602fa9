import InfoModel.Model.Build
import InfoModel.Proofs.Store.Publication

/-!
# Building a module

An attempt to build a module takes a number, puts the module together and resolves it if the
settings say so. A module that is built from modules that were built is built itself, and it is
known to the store by a number that was used. Main statements: `Store.Law.build`,
`Store.Knows.of_build`.
-/

namespace InfoModel

namespace Store
variable {s t : Store} {setup : Setup} {d : ModuleDecl} {location : Option Uri}
  {imports : List Module} {m : Module}

/-- The store has given a number to a module that was built. -/
structure Knows (s : Store) (m : Module) : Prop where
  built : m.Built
  number : m.id < s.nextId

theorem Knows.mono (h : s.Knows m) (hst : s.nextId ≤ t.nextId) : t.Knows m :=
  ⟨h.built, Nat.lt_of_lt_of_le h.number hst⟩

theorem leads_numbered (s : Store) : s.Leads s.numbered :=
  ⟨[], Makes.of_silent rfl rfl (Nat.le_succ _)⟩

end Store

namespace Module
variable {s t : Store} {setup : Setup} {d : ModuleDecl} {location : Option Uri}
  {imports : List Module} {m : Module}

def settleBuilt (setup : Setup) (m : Module) : Request Module := do
  Request.notice m.builtEvent
  if setup.settings.eagerResolution then m.resolveAll
  return m

theorem build_of_error {e : ModelFault}
    (h : assemble setup s.nextId d location imports = .error e) :
    Module.build setup d location imports s = (.error e, s.numbered) := by
  have hn : Request.newId s = (.ok s.nextId, s.numbered) := rfl
  unfold Module.build
  rw [stateful_bind_ok hn, h]
  rfl

theorem build_of_ok (h : assemble setup s.nextId d location imports = .ok m) :
    Module.build setup d location imports s = settleBuilt setup m s.numbered := by
  have hn : Request.newId s = (.ok s.nextId, s.numbered) := rfl
  unfold Module.build
  rw [stateful_bind_ok hn, h]
  rfl

theorem settleBuilt_eq (setup : Setup) (m : Module) (s : Store) :
    settleBuilt setup m s =
      if setup.settings.eagerResolution then
        match m.resolveAll (s.note [m.builtEvent]) with
        | (.ok _, t) => (.ok m, t)
        | (.error e, t) => (.error e, t)
      else (.ok m, s.note [m.builtEvent]) := by
  have hn : Request.notice m.builtEvent s = (.ok (), s.note [m.builtEvent]) := rfl
  unfold settleBuilt
  rw [stateful_bind_ok hn]
  by_cases he : setup.settings.eagerResolution = true
  · rw [if_pos he, if_pos he, stateful_bind]
    cases m.resolveAll (s.note [m.builtEvent]) with
    | mk outcome t => cases outcome <;> rfl
  · rw [if_neg he, if_neg he]
    rfl

theorem eq_of_settleBuilt {m' : Module} (h : settleBuilt setup m s = (.ok m', t)) : m' = m := by
  rw [settleBuilt_eq] at h
  split at h
  · split at h
    · exact (Except.ok.inj (Prod.mk.inj h).1).symm
    · exact absurd (Prod.mk.inj h).1 (by simp)
  · exact (Except.ok.inj (Prod.mk.inj h).1).symm

theorem assemble_of_build (h : Module.build setup d location imports s = (.ok m, t)) :
    assemble setup s.nextId d location imports = .ok m := by
  cases ha : assemble setup s.nextId d location imports with
  | error e =>
    rw [build_of_error ha] at h
    exact absurd (Prod.mk.inj h).1 (by simp)
  | ok m' =>
    rw [build_of_ok ha] at h
    rw [eq_of_settleBuilt h]

end Module

namespace Store
variable {s t : Store} {setup : Setup} {d : ModuleDecl} {location : Option Uri}
  {imports : List Module} {m : Module}

section
variable {P : Module → Prop} {R : Store → Store → Prop}

theorem Law.settleBuilt (h : Law P R) (hm : P m) (setup : Setup) (s : Store) :
    R s (Module.settleBuilt setup m s).2 := by
  rw [Module.settleBuilt_eq]
  have hn : R s (s.note [m.builtEvent]) := h.note rfl rfl s
  split
  · have hr := h.resolveAll hm (s.note [m.builtEvent])
    split
    · rename_i t ht
      rw [ht] at hr
      exact h.trans hn hr
    · rename_i t ht
      rw [ht] at hr
      exact h.trans hn hr
  · exact hn

theorem Law.numbered_build (h : Law P R)
    (hm : ∀ m, Module.assemble setup s.nextId d location imports = .ok m → P m) :
    R s.numbered (Module.build setup d location imports s).2 := by
  cases ha : Module.assemble setup s.nextId d location imports with
  | error e =>
    rw [Module.build_of_error ha]
    exact h.refl _
  | ok m =>
    rw [Module.build_of_ok ha]
    exact h.settleBuilt (hm m ha) setup s.numbered

/-- What holds along the steps and where a number is given out holds where a module is built. -/
theorem Law.build (h : Law P R) (hn : R s s.numbered)
    (hm : ∀ m, Module.assemble setup s.nextId d location imports = .ok m → P m)
    {outcome : Except ModelFault Module}
    (hb : Module.build setup d location imports s = (outcome, t)) : R s t := by
  have hl : R s (Module.build setup d location imports s).2 := h.trans hn (h.numbered_build hm)
  rw [hb] at hl
  exact hl

end

theorem built_of_assemble (himports : ∀ i ∈ imports, s.Knows i)
    (h : Module.assemble setup s.nextId d location imports = .ok m) : m.Built :=
  .intro h (fun i hi => (himports i hi).built) fun i hi => (himports i hi).number

theorem numbers_build (himports : ∀ i ∈ imports, s.Knows i) :
    s.nextId + 1 ≤ (Module.build setup d location imports s).2.nextId :=
  (law_leads.numbered_build fun _ ha => built_of_assemble himports ha).numbers

theorem Knows.of_build (himports : ∀ i ∈ imports, s.Knows i)
    (h : Module.build setup d location imports s = (.ok m, t)) : t.Knows m := by
  have ha := Module.assemble_of_build h
  refine ⟨built_of_assemble himports ha, ?_⟩
  have hl : s.nextId + 1 ≤ (Module.build setup d location imports s).2.nextId :=
    numbers_build himports
  rw [h] at hl
  rw [Module.id_of_assemble ha]
  exact hl

end Store

end InfoModel

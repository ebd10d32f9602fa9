import InfoModel.Proofs.Building.Module
import InfoModel.Proofs.Store.Numbers

/-!
# What a declaration gives

Whether a module is built, and what it is but for its number, follows from the declaration and from
what its imports are but for their numbers. What the store remembers has no part in it. Main
statements: `Module.fst_build`, `Module.map_unnumbered_build`.
-/

namespace InfoModel

namespace Module
variable {setup : Setup} {id : Nat} {d : ModuleDecl} {location : Option Uri} {imports : List Module}

def declared (setup : Setup) (id : Nat) (d : ModuleDecl) (location : Option Uri)
    (imports : List Module) : Except ModelFault Module := do
  let m ← assemble setup id d location imports
  if setup.settings.eagerResolution then Store.firstFault (outcomes m.parts)
  return m

/-- What was built for a declaration is what it declares. -/
theorem fst_build {s : Store} (h : s.Ahead) :
    (Module.build setup d location imports s).1 = declared setup s.nextId d location imports := by
  unfold declared
  cases ha : assemble setup s.nextId d location imports with
  | error e =>
    rw [build_of_error ha]
    rfl
  | ok m =>
    rw [build_of_ok ha, settleBuilt_eq]
    have hc : (s.numbered.note [m.builtEvent]).Clear m.id := by
      rw [id_of_assemble ha]
      exact (Store.undisturbed_note _ _).clear _ ⟨h.next.held, h.next.fates⟩
    have hr := Store.fst_resolveAll hc
    by_cases he : setup.settings.eagerResolution = true
    · rw [if_pos he]
      show _ = (if setup.settings.eagerResolution = true then _ else _ : Except ModelFault Module)
      rw [if_pos he, ← hr]
      cases m.resolveAll (s.numbered.note [m.builtEvent]) with
      | mk outcome t =>
        cases outcome with
        | ok _ => rfl
        | error e => rfl
    · rw [if_neg he]
      show _ = (if setup.settings.eagerResolution = true then _ else _ : Except ModelFault Module)
      rw [if_neg he]
      rfl

theorem ahead_of_build {s t : Store} {outcome : Except ModelFault Module} (h : s.Ahead)
    (hb : Module.build setup d location imports s = (outcome, t)) : t.Ahead :=
  Store.law_ahead.build Store.Ahead.numbered (fun _ _ => trivial) hb h

theorem map_relabel_assemble (r : Relabelling) {setup' : Setup} {id' : Nat}
    (hr : setup'.registry = setup.registry)
    (hc : ∀ i, i.id = id → i.setup = setup → r.change i = { i with id := id', setup := setup' }) :
    (assemble setup id d location imports).map (relabel r) =
      assemble setup' id' d location (imports.map (relabel r)) := by
  unfold assemble
  rw [hr]
  cases readBaseUri d.jsonBaseUri with
  | error e => rfl
  | ok jsonBaseUri =>
    show Except.map (relabel r) (d.definitions.foldlM _ _ >>= _) = d.definitions.foldlM _ _ >>= _
    cases d.definitions.foldlM (Definitions.declare setup.registry (sourceOf d location)) .empty
    with
    | error e => rfl
    | ok definitions =>
      show Except.ok (Module.mk (r.change _) (reviseAll r.revision imports)) =
        Except.ok (Module.mk _ _)
      rw [hc _ rfl rfl, reviseAll_eq_map]

def unnumbering : Relabelling :=
  ⟨fun i => { i with id := 0 }, fun _ => rfl, fun _ => rfl, fun _ => rfl⟩

def unnumbered (m : Module) : Module := m.relabel unnumbering

theorem map_unnumbered_assemble :
    (assemble setup id d location imports).map unnumbered =
      assemble setup 0 d location (imports.map unnumbered) := by
  refine map_relabel_assemble unnumbering rfl ?_
  rintro i - rfl
  rfl

theorem map_unnumbered_declared :
    (declared setup id d location imports).map unnumbered =
      declared setup 0 d location (imports.map unnumbered) := by
  have ha : (assemble setup id d location imports).map unnumbered =
      assemble setup 0 d location (imports.map unnumbered) := map_unnumbered_assemble
  unfold declared
  rw [← ha]
  cases assemble setup id d location imports with
  | error e => rfl
  | ok m =>
    have ho : outcomes m.unnumbered.parts = outcomes m.parts := m.outcomes_relabel unnumbering
    show Except.map unnumbered (if setup.settings.eagerResolution = true then _ else _) =
      (if setup.settings.eagerResolution = true then _ else _)
    rw [ho]
    split
    · cases Store.firstFault (outcomes m.parts) with
      | error e => rfl
      | ok _ => rfl
    · rfl

/-- What is built but for its number follows from the imports but for their numbers. -/
theorem map_unnumbered_build {s : Store} (h : s.Ahead) :
    (Module.build setup d location imports s).1.map unnumbered =
      declared setup 0 d location (imports.map unnumbered) := by
  rw [fst_build h, map_unnumbered_declared]

theorem map_unnumbered_of_build {s t : Store} {outcome : Except ModelFault Module} (h : s.Ahead)
    (hb : Module.build setup d location imports s = (outcome, t)) :
    outcome.map unnumbered = declared setup 0 d location (imports.map unnumbered) := by
  rw [← map_unnumbered_build h, hb]

theorem build_fails_again {s t : Store} {e : ModelFault} (h : s.Ahead)
    (hb : Module.build setup d location imports s = (.error e, t)) {s' : Store} (h' : s'.Ahead) :
    (Module.build setup d location imports s').1 = .error e := by
  rw [← Except.map_eq_error_iff, map_unnumbered_build h', ← map_unnumbered_of_build h hb]
  rfl

theorem fault_orBasic {x : Except Fault α} {e : ModelFault} (h : orBasic x = .error e) :
    e.OfDefinition := by
  cases x with
  | ok a => exact absurd h (by simp [orBasic])
  | error f =>
    cases h
    trivial

theorem fault_of_declare {r : Registry} {source : Source} {ds : Definitions} {d : DefinitionDecl}
    {e : ModelFault} (h : ds.declare r source d = .error e) : e.OfDefinition := by
  rcases Except.bind_eq_error_iff.mp h with h | ⟨definition, -, h⟩
  · exact fault_orBasic h
  · dsimp only at h
    split at h
    · cases h
      trivial
    · exact absurd h (by simp)

theorem fault_of_assemble {e : ModelFault} (h : assemble setup id d location imports = .error e) :
    e.OfDefinition := by
  rcases Except.bind_eq_error_iff.mp h with h | ⟨jsonBaseUri, -, h⟩
  · unfold readBaseUri at h
    split at h
    · exact absurd h (by simp)
    · split at h
      · exact absurd h (by simp)
      · cases h
        trivial
  · rcases Except.bind_eq_error_iff.mp h with h | ⟨definitions, -, h⟩
    · obtain ⟨ds, decl, -, hd⟩ := Except.step_of_foldlM_error h
      exact fault_of_declare hd
    · exact absurd h (by simp [pure, Except.pure])

theorem fault_of_firstFault {ps : List (Part Unit)} {m : Module} (hps : ∀ p ∈ ps, p.Of m)
    {e : ModelFault} (h : Store.firstFault (outcomes ps) = .error e) : e.OfDefinition := by
  induction ps with
  | nil => exact absurd h (by simp [Store.firstFault, outcomes, pure, Except.pure])
  | cons p ps ih =>
    have hb : (p.build.outcome >>= fun _ => Store.firstFault (outcomes ps)) = .error e := h
    rcases Except.bind_eq_error_iff.mp hb with hb | ⟨_, -, hb⟩
    · exact (hps p List.mem_cons_self).fits.fault e hb
    · exact ih (fun q hq => hps q (List.mem_cons_of_mem p hq)) hb

theorem fault_of_declared {e : ModelFault} (h : declared setup id d location imports = .error e) :
    e.OfDefinition := by
  rcases Except.bind_eq_error_iff.mp h with h | ⟨m, -, h⟩
  · exact fault_of_assemble h
  · split at h
    · rcases Except.bind_eq_error_iff.mp h with h | ⟨_, -, h⟩
      · exact fault_of_firstFault (fun p hp => of_mem_parts hp) h
      · exact absurd h (by simp [pure, Except.pure])
    · exact absurd h (by simp [pure, Except.pure])

end Module

end InfoModel

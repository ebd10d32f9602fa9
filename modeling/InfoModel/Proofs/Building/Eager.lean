import InfoModel.Proofs.Building.Declared

/-!
# Building at once or on demand

The settings say whether a module is resolved where it is built. But for what the module remembers
of these settings, building it so comes to building it without being resolved, followed by its
resolution. Main statement: `Module.map_bare_build`.
-/

namespace InfoModel

def Setup.resolving (setup : Setup) (eager : Bool) : Setup :=
  { setup with settings := { setup.settings with eagerResolution := eager } }

namespace Module
variable {setup : Setup} {eager : Bool} {id : Nat} {d : ModuleDecl} {location : Option Uri}
  {imports : List Module} {m : Module} {s s' t : Store}

/-- The change of labels that forgets the numbers of modules and whether they were resolved where
they were built. -/
def baring : Relabelling :=
  ⟨fun i => { i with id := 0, setup := i.setup.resolving false },
    fun _ => rfl, fun _ => rfl, fun _ => rfl⟩

/-- What a module and the modules that it imports are, whatever their numbers and whether or not
they were resolved where they were built. -/
def bare (m : Module) : Module := m.relabel baring

theorem map_bare_assemble (eager : Bool) :
    (assemble (setup.resolving eager) id d location imports).map bare =
      assemble (setup.resolving false) 0 d location (imports.map bare) := by
  refine map_relabel_assemble baring rfl ?_
  intro i _ hs
  show { i with id := 0, setup := i.setup.resolving false } = _
  rw [hs]
  rfl

theorem exists_assemble (eager' : Bool) {id' : Nat} {imports' : List Module}
    (hi : imports'.map bare = imports.map bare)
    (ha : assemble (setup.resolving eager) id d location imports = .ok m) :
    ∃ m', assemble (setup.resolving eager') id' d location imports' = .ok m' ∧
      m'.bare = m.bare := by
  rw [← Except.map_eq_ok_iff, map_bare_assemble, hi, ← map_bare_assemble eager, ha]
  rfl

/-- A module that can be resolved, or its first fault. -/
def resolved (m : Module) : Except ModelFault Module := do
  Store.firstFault (outcomes m.parts)
  return m

theorem resolved_relabel (r : Relabelling) (m : Module) :
    (m.relabel r).resolved = m.resolved.map (relabel r) := by
  unfold resolved
  rw [outcomes_relabel]
  cases Store.firstFault (outcomes m.parts) with
  | ok _ => rfl
  | error e => rfl

theorem map_bare_bind_resolved (x : Except ModelFault Module) :
    (x >>= resolved).map bare = x.map bare >>= resolved := by
  cases x with
  | error e => rfl
  | ok m => exact (m.resolved_relabel baring).symm

theorem declared_lazy :
    declared (setup.resolving false) id d location imports =
      assemble (setup.resolving false) id d location imports := by
  unfold declared
  cases assemble (setup.resolving false) id d location imports with
  | error e => rfl
  | ok m => rfl

theorem declared_eager :
    declared (setup.resolving true) id d location imports =
      assemble (setup.resolving true) id d location imports >>= resolved := rfl

theorem declared_eq_ok_iff :
    declared setup id d location imports = .ok m ↔
      assemble setup id d location imports = .ok m ∧
        (setup.settings.eagerResolution = true → Store.firstFault (outcomes m.parts) = .ok ()) := by
  unfold declared
  rw [Except.bind_eq_ok_iff]
  constructor
  · rintro ⟨n, ha, h⟩
    split at h
    · obtain ⟨_, hf, h⟩ := Except.bind_eq_ok_iff.mp h
      cases h
      exact ⟨ha, fun _ => hf⟩
    · rename_i he
      cases h
      exact ⟨ha, fun he' => absurd he' he⟩
  · rintro ⟨ha, hf⟩
    refine ⟨m, ha, ?_⟩
    split
    · rename_i he
      rw [hf he]
      rfl
    · rfl

theorem clear_of_build {n : Nat} {outcome : Except ModelFault Module} (h : s.Clear n)
    (hb : Module.build setup d location imports s = (outcome, t)) : t.Clear n :=
  Store.law_clear.build (fun _ hc => ⟨hc.held, hc.fates⟩) (fun _ _ => trivial) hb n h

theorem clear_built (h : s.Ahead) (hb : Module.build setup d location imports s = (.ok m, t)) :
    t.Clear m.id := by
  rw [id_of_assemble (assemble_of_build hb)]
  exact clear_of_build h.next hb

def buildThenResolve (setup : Setup) (d : ModuleDecl) (location : Option Uri)
    (imports : List Module) : Request Module := do
  let m ← Module.build (setup.resolving false) d location imports
  m.resolveAll
  return m

theorem fst_buildThenResolve (h : s.Ahead) :
    (buildThenResolve setup d location imports s).1 =
      assemble (setup.resolving false) s.nextId d location imports >>= resolved := by
  have ho : (Module.build (setup.resolving false) d location imports s).1 =
      assemble (setup.resolving false) s.nextId d location imports :=
    (fst_build h).trans declared_lazy
  unfold buildThenResolve
  rw [stateful_bind, ← ho]
  cases hb : Module.build (setup.resolving false) d location imports s with
  | mk outcome t =>
    cases outcome with
    | error e => rfl
    | ok m =>
      have hr := Store.fst_resolveAll (clear_built h hb)
      show ((m.resolveAll >>= fun _ => pure m : Request Module) t).1 = m.resolved
      unfold resolved
      rw [stateful_bind, ← hr]
      cases m.resolveAll t with
      | mk outcome u =>
        cases outcome with
        | ok _ => rfl
        | error e => rfl

/-- A module that is resolved where it is built is built exactly if it can be built and resolved
afterwards, and fails for the same reason. -/
theorem map_bare_build (h : s.Ahead) (h' : s'.Ahead) :
    (Module.build (setup.resolving true) d location imports s).1.map bare =
      (buildThenResolve setup d location imports s').1.map bare := by
  rw [fst_build h, declared_eager, fst_buildThenResolve h', map_bare_bind_resolved,
    map_bare_bind_resolved, map_bare_assemble, map_bare_assemble]

end Module

end InfoModel

import InfoModel.Model.Build

/-!
# Loaders

A loader holds documents by location and builds the modules that they declare, each with the modules
that it imports. An import is given relative to the location of the document. Each location is built
once; a module that is imported from several places is the same everywhere. The imports of a
document are loaded in order before the document itself; a document that is met again while it is
being loaded closes a cycle. Main function: `Loader.load`.
-/

namespace InfoModel

abbrev Documents := NamedMap Uri ModuleDecl

/-- What loading changes: the modules built so far by location, and the store. -/
structure LoadState where
  modules : NamedMap Uri Module
  store : Store

/-- A step of loading, which may fail; what was built before a failure stays built. -/
abbrev Loading (α : Type) := ExceptT ModelFault (StateM LoadState) α

namespace Loading

def ofRequest (r : Request α) : Loading α := fun s =>
  let (outcome, store) := r s.store
  (outcome, { s with store := store })

def keep (location : Uri) (m : Module) : Loading Unit :=
  modify fun s => { s with modules := s.modules.insert location m }

/-- The number of documents that are not being loaded. -/
def waiting (documents : Documents) (loading : List Uri) : Nat :=
  (documents.keys.filter fun u => u ∉ loading).length

theorem waiting_append_lt {documents : Documents} {loading : List Uri} {u : Uri} {d : ModuleDecl}
    (hd : documents.get? u = some d) (hu : u ∉ loading) :
    waiting documents (loading ++ [u]) < waiting documents loading := by
  have hm : u ∈ documents.keys := by
    unfold NamedMap.get? at hd
    split at hd
    · next i hi =>
      rw [documents.index_eq] at hi
      exact List.isSome_idxOf?.mp (Option.isSome_of_eq_some hi)
    · contradiction
  have hf : (documents.keys.filter fun v => v ∉ loading ++ [u]) =
      (documents.keys.filter fun v => v ∉ loading).filter (· ≠ u) := by
    rw [List.filter_filter]
    congr 1
    funext v
    by_cases hv : v ∈ loading <;> by_cases hw : v = u <;> simp [hv, hw]
  simp only [waiting, hf]
  refine List.length_filter_lt_length_iff_exists.mpr ⟨u, ?_, by simp⟩
  simpa using ⟨hm, hu⟩

mutual

/-- Loads the module at a location, while the documents at other locations are being loaded. -/
def loadAt (setup : Setup) (join : Uri → String → Option Uri) (documents : Documents)
    (loading : List Uri) (location : Uri) : Loading Module := do
  match (← get).modules.get? location with
  | some m => return m
  | none =>
    if _hu : location ∈ loading then
      throw (.importCycle (((loading.dropWhile (· ≠ location)) ++ [location]).map Uri.text))
    else
      match _hd : documents.get? location with
      | none => throw (.missingImport location.text loaderName)
      | some d =>
        let imports ← loadImports setup join documents (loading ++ [location]) location d.shortName
          d.imports
        let m ← ofRequest (Module.build setup d (some location) imports)
        ofRequest (Request.notice (.loadedModule m.shortName location.text))
        keep location m
        return m
termination_by (waiting documents loading, 0)
decreasing_by exact Prod.Lex.left _ _ (waiting_append_lt _hd _hu)

/-- Loads the imports of the document with a location and a short name, in order. -/
def loadImports (setup : Setup) (join : Uri → String → Option Uri) (documents : Documents)
    (loading : List Uri) (location : Uri) (owner : String) : List String → Loading (List Module)
  | [] => return []
  | href :: hrefs => do
    match join location href with
    | none => throw (.basic (.invalidUri href))
    | some target =>
      unless documents.contains target || (← get).modules.contains target do
        throw (.missingImport href owner)
      let m ← loadAt setup join documents loading target
      let ms ← loadImports setup join documents loading location owner hrefs
      return m :: ms
termination_by hrefs => (waiting documents loading, hrefs.length + 1)

end

end Loading

/-- The documents that a loader knows and the modules that it built. -/
structure Loader where
  documents : Documents
  modules : NamedMap Uri Module

namespace Loader

def empty : Loader := ⟨.empty, .empty⟩

/-- Adds a document, in place of another one at its location. A module that is built already stays.
-/
def add (l : Loader) (location : Uri) (d : ModuleDecl) : Loader :=
  { l with documents := l.documents.insert location d }

/-- Loads the module at a location, where `join` finds the location of an import. -/
def loadWith (join : Uri → String → Option Uri) (setup : Setup) (l : Loader) (location : Uri)
    (s : Store) : Except ModelFault Module × Loader × Store :=
  let (outcome, state) := Loading.loadAt setup join l.documents [] location ⟨l.modules, s⟩
  (outcome, { l with modules := state.modules }, state.store)

def load : Setup → Loader → Uri → Store → Except ModelFault Module × Loader × Store :=
  loadWith Uri.join

end Loader

end InfoModel

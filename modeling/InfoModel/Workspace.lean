import InfoModel.Model.Loader

/-!
# Workspaces

A workspace holds modules under names of its own and may hold a loader. A module is held as long as
the workspace holds it, its loader holds it, or a module that is held imports it; a definition in
hand does not hold its module. Modules that nobody holds any longer are released, and the store
remembers that.
-/

namespace InfoModel

namespace Module

mutual

/-- The numbers of the module and of all modules that it imports, directly or through others. -/
def family : Module → List Nat
  | ⟨info, imports⟩ => info.id :: familyOf imports

def familyOf : List Module → List Nat
  | [] => []
  | m :: ms => family m ++ familyOf ms

end

end Module

/-- Modules by name, a loader, and what is remembered of them. -/
structure Workspace where
  setup : Setup
  handles : List (String × Module)
  loader : Option Loader
  store : Store

namespace Workspace

def fresh (setup : Setup) : Workspace := ⟨setup, [], some .empty, .empty⟩

def handle? (w : Workspace) (name : String) : Option Module :=
  (w.handles.find? fun e => e.1 = name).map (·.2)

def roots (w : Workspace) : List Module :=
  w.handles.map (·.2) ++
    match w.loader with
    | some l => l.modules.values
    | none => []

def held (w : Workspace) : List Nat := Module.familyOf w.roots

def isHeld (w : Workspace) (m : Module) : Bool := w.held.contains m.id

/-- Releases the modules among `ids` that are not held any longer. -/
def release (w : Workspace) (ids : List Nat) : Workspace :=
  { w with store.released := w.store.released ++ ids.filter fun i => i ∉ w.held }

def otherHandles (w : Workspace) (name : String) : List (String × Module) :=
  w.handles.filter fun e => e.1 ≠ name

def hold (w : Workspace) (name : String) (m : Module) : Workspace :=
  release { w with handles := (name, m) :: w.otherHandles name } w.held

def drop (w : Workspace) (name : String) : Workspace :=
  release { w with handles := w.otherHandles name } w.held

def dropLoader (w : Workspace) : Workspace := release { w with loader := none } w.held

def run (w : Workspace) (r : Request α) : Except ModelFault α × Workspace :=
  let (outcome, store) := r w.store
  (outcome, { w with store := store })

def build (w : Workspace) (name : String) (d : ModuleDecl) (location : Option Uri)
    (imports : List Module) : Except ModelFault Module × Workspace :=
  match w.run (Module.build w.setup d location imports) with
  | (.ok m, w) => (.ok m, w.hold name m)
  | failed => failed

def addDocument (w : Workspace) (location : Uri) (d : ModuleDecl) : Workspace :=
  { w with loader := w.loader.map fun l => l.add location d }

/-- Loads a module and holds it under a name; nothing if there is no loader. -/
def load (w : Workspace) (name : String) (location : Uri) :
    Option (Except ModelFault Module) × Workspace :=
  match w.loader with
  | none => (none, w)
  | some l =>
    let (outcome, l, store) := l.load w.setup location w.store
    let w := { w with loader := some l, store := store }
    match outcome with
    | .ok m => (some (.ok m), w.hold name m)
    | .error e => (some (.error e), w)

/-- The events noticed since the last time, and the workspace that has forgotten them. -/
def takeJournal (w : Workspace) : List Event × Workspace :=
  (w.store.journal, { w with store.journal := [] })

end Workspace

end InfoModel

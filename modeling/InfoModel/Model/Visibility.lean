import InfoModel.Event
import InfoModel.Model.Placed

/-!
# Visibility

Inside a module its own definitions are visible, whatever their scope, and behind them what its
imports export, the earlier import first. A module exports its shared definitions and everything
that its imports export; of several exported definitions with one name a module's own comes first.
Main functions: `Module.exports` lists what a module exports, `Module.exported?` finds a single name
in it, `Module.visible?` finds what a reference means.
-/

namespace InfoModel

namespace Module

/-- The entries of `into`, and behind them those of `table` with other keys. -/
def inherit {κ ν : Type} [DecidableEq κ] (into table : NamedMap κ ν) : NamedMap κ ν :=
  table.entries.foldl (fun m e => if m.contains e.1 then m else m.insert e.1 e.2) into

/-- The table in which each definition stands under its name, and the definitions that took the
place of others there. -/
def publish {k : Kind} (into : NamedMap QName (Placed k)) :
    List (Placed k) → NamedMap QName (Placed k) × List (Placed k)
  | [] => (into, [])
  | d :: ds =>
    let (replaced, table) := into.exchange d.name d
    let (table, shadowing) := publish table ds
    (table, if replaced.isSome then d :: shadowing else shadowing)

mutual

/-- What a module exports: what its imports export, and its own shared definitions, which take the
place of others with their names. -/
def exports (k : Kind) : Module → NamedMap QName (Placed k)
  | ⟨info, imports⟩ => (publish (exportsOf k imports .empty) (shared ⟨info, imports⟩ k)).1

/-- What several modules export: of definitions with one name the first. -/
def exportsOf (k : Kind) : List Module → NamedMap QName (Placed k) → NamedMap QName (Placed k)
  | [], table => table
  | m :: ms, table => exportsOf k ms (inherit table (exports k m))

end

def exported? (k : Kind) (name : QName) (m : Module) : Option (Placed k) := (exports k m).get? name

/-- The module's own definitions of a kind that take the place of imported ones in the table of what
it exports, as events. -/
def shadowedOfKind (m : Module) (k : Kind) : List Event :=
  (publish (exportsOf k m.imports .empty) (m.shared k)).2.map fun d =>
    .shadowed k.text d.name.text m.shortName

def shadowings (m : Module) : List Event :=
  if m.info.setup.settings.warnOnShadowing then Kind.all.flatMap m.shadowedOfKind else []

/-- The definition that a name means inside the module. -/
def visible? (m : Module) (k : Kind) (name : QName) : Option (Placed k) :=
  (m.own? k name).or (m.imports.findSome? (exported? k name))

def upTo {α : Type} (p : α → Bool) : List α → List α
  | [] => []
  | a :: as => a :: if p a then [] else upTo p as

/-- The imports whose exports are looked at to find what a name means: none if the module has a
definition of its own, else all up to the first that exports the name. -/
def consulted (m : Module) (k : Kind) (name : QName) : List Module :=
  if (m.own? k name).isSome then [] else upTo (fun i => (exported? k name i).isSome) m.imports

end Module

end InfoModel

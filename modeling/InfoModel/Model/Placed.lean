import InfoModel.Model.Module

/-!
# Definitions in their place

A definition in hand knows the module it belongs to and its place there: under its name among the
global definitions, or inside the definition that declares it. Module and place together tell it
from every other definition.
-/

namespace InfoModel

/-- A place in a module: a global definition, a flag of the definition at another place, or a child
of the definition, choice or group at another place. -/
inductive Site where
  | global (kind : Kind) (name : QName)
  | flag (parent : Site) (index : Nat)
  | child (parent : Site) (index : Nat)
deriving Repr, DecidableEq

/-- A definition with the module it belongs to and its place there. -/
structure Placed (k : Kind) where
  home : Module
  site : Site
  definition : k.Definition

namespace Placed
variable {k : Kind}

def head (d : Placed k) : DefinitionHead := k.head d.definition

def name (d : Placed k) : QName := d.head.name

def decl (d : Placed k) : k.Decl := k.decl d.definition

def isInline (d : Placed k) : Bool := d.head.position.isNone

/-- The number of the module and the place in it. -/
def key (d : Placed k) : Nat × Site := (d.home.id, d.site)

end Placed

namespace Module

def place (m : Module) (k : Kind) (d : k.Definition) : Placed k := ⟨m, .global k (k.head d).name, d⟩

def own (m : Module) (k : Kind) : List (Placed k) := (m.definitions k).values.map (m.place k)

def own? (m : Module) (k : Kind) (name : QName) : Option (Placed k) :=
  ((m.definitions k).get? name).map (m.place k)

/-- The global definitions that importing modules see. -/
def shared (m : Module) (k : Kind) : List (Placed k) :=
  (m.own k).filter fun d => d.head.scope = .shared

end Module

end InfoModel

import InfoModel.Model.Part

/-!
# The store of what was built

A part is built when it is first asked for, and it is built once: the store remembers for each part
whether it was built or was refused because its module had been released by then. What a part
contains follows from its declaration and from the modules around it, so the store holds no
contents; it decides what is noticed, which is noticed once, and what is refused. The same holds for
the tables of what modules export. That a store which keeps the contents and the tables it first
made would give the same is proved and not assumed: see `Cells` and `Store.serve_agrees`. Main
functions: `Store.consult`, `Store.demand`.
-/

namespace InfoModel

inductive Fate where
  | built
  | refused
deriving Repr, DecidableEq

/-- What is remembered between requests: the fates of parts, the modules whose tables of exports
were made, the modules that nobody holds any longer, the number for the next module, and the events
noticed so far. -/
structure Store where
  fates : List (Slot × Fate)
  published : List Nat
  released : List Nat
  nextId : Nat
  journal : List Event

namespace Store

def empty : Store := ⟨[], [], [], 0, []⟩

def fate? (s : Store) (slot : Slot) : Option Fate :=
  (s.fates.find? fun e => e.1 = slot).map (·.2)

def note (s : Store) (events : List Event) : Store := { s with journal := s.journal ++ events }

def settle (s : Store) (slot : Slot) (fate : Fate) : Store :=
  { s with fates := (slot, fate) :: s.fates }

mutual

/-- Makes the table of what a module exports, unless it was made before. Those of its imports are
made first. -/
def consult (s : Store) : Module → Store
  | ⟨info, imports⟩ =>
    if s.published.contains info.id then s
    else
      let s := consultAll s imports
      { s with
        published := info.id :: s.published
        journal := s.journal ++ Module.shadowings ⟨info, imports⟩ }

def consultAll (s : Store) : List Module → Store
  | [] => s
  | m :: ms => consultAll (consult s m) ms

end

/-- Takes a step of a building. -/
def take (s : Store) : Step → Store
  | .look m .. => s.consult m
  | .notice e => s.note [e]

/-- Asks for a part. The first time its steps are taken, or it is refused because its module was
released; later what happened the first time happens again, without steps. -/
def demand (s : Store) (p : Part α) : Except ModelFault α × Store :=
  match s.fate? p.slot with
  | some .built => (p.build.outcome, s)
  | some .refused => (.error (.released p.definition.text), s)
  | none =>
    if p.needsModule && s.released.contains p.slot.home then
      (.error (.released p.definition.text), s.settle p.slot .refused)
    else (p.build.outcome, (p.build.trace.foldl take s).settle p.slot .built)

theorem demand_of_built {s : Store} {p : Part α} (h : s.fate? p.slot = some .built) :
    s.demand p = (p.build.outcome, s) := by simp [demand, h]

theorem demand_of_refused {s : Store} {p : Part α} (h : s.fate? p.slot = some .refused) :
    s.demand p = (.error (.released p.definition.text), s) := by simp [demand, h]

end Store

/-- A request to the store, which may fail and may change what is remembered. -/
abbrev Request (α : Type) := ExceptT ModelFault (StateM Store) α

def Part.get (p : Part α) : Request α := fun s => s.demand p

def Request.notice (e : Event) : Request Unit := modify fun s => s.note [e]

/-- A module does what it is asked only while it is held; the definition is named if it is not. -/
def Placed.homeOf (d : Placed k) : Request Module := do
  if (← get).released.contains d.home.id then throw (.released d.name.text) else return d.home

def Module.consult (m : Module) : Request Unit := modify fun s => s.consult m

def Module.exported (m : Module) (k : Kind) : Request (List (Placed k)) := do
  m.consult
  return (m.exports k).values

def Module.findExported (m : Module) (k : Kind) (name : QName) : Request (Option (Placed k)) := do
  m.consult
  return m.exported? k name

def Module.findVisible (m : Module) (k : Kind) (name : QName) : Request (Option (Placed k)) := do
  modify fun s => s.consultAll (m.consulted k name)
  return m.visible? k name

def Module.resolveReference (m : Module) (k : Kind) (reference : String) (containing : QName) :
    Request (Placed k) := do
  let b := m.resolve k reference containing
  modify fun s => b.trace.foldl Store.take s
  MonadExcept.ofExcept b.outcome

end InfoModel

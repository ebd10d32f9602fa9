import InfoModel.Proofs.Resolution.Place
import InfoModel.Proofs.Store.Numbers
import InfoModel.Proofs.Visibility.Reference

/-!
# What can be asked of modules

A query asks for a part of what stands in a module, for a flag with a special meaning, for the full
resolution of a definition or module, or for a definition by name. What it gives follows from the
query alone as long as its module is held. Main statements: `Query.fst_request`,
`Store.Law.request`.
-/

namespace InfoModel

/-- What can be asked of modules and of what stands in them. -/
inductive Query where
  | aggregate (a : Aggregate)
  | assemblyKeyFlag (d : Placed .assembly)
  | fieldKeyFlag (d : Placed .field)
  | valueKeyFlag (d : Placed .field)
  | resolveDefinition (k : Kind) (d : Placed k)
  | resolveModule (m : Module)
  | exported (m : Module) (k : Kind)
  | findExported (m : Module) (k : Kind) (name : QName)
  | findVisible (m : Module) (k : Kind) (name : QName)
  | resolveReference (m : Module) (k : Kind) (reference : String) (containing : QName)

namespace Query

/-- What a query gives if it succeeds. -/
@[reducible] def Answer : Query → Type
  | .aggregate a => a.Content
  | .assemblyKeyFlag _ => Option FlagInstance
  | .fieldKeyFlag _ => Option FlagInstance
  | .valueKeyFlag _ => Option FlagInstance
  | .resolveDefinition .. => Unit
  | .resolveModule _ => Unit
  | .exported _ k => List (Placed k)
  | .findExported _ k _ => Option (Placed k)
  | .findVisible _ k _ => Option (Placed k)
  | .resolveReference _ k _ _ => Placed k

/-- The query as a request to the store. -/
def request : (q : Query) → Request q.Answer
  | .aggregate a => a.part.get
  | .assemblyKeyFlag d => (d.assemblyFlags.map FlagSet.jsonKeyFlag?).get
  | .fieldKeyFlag d => (d.fieldFlags.map FlagSet.jsonKeyFlag?).get
  | .valueKeyFlag d => (d.fieldFlags.map d.definition.valueKeyFlag?).get
  | .resolveDefinition _ d => d.resolveAll
  | .resolveModule m => m.resolveAll
  | .exported m k => m.exported k
  | .findExported m k name => m.findExported k name
  | .findVisible m k name => m.findVisible k name
  | .resolveReference m k reference containing => m.resolveReference k reference containing

/-- The module that is asked. -/
def home : Query → Module
  | .aggregate a => a.home
  | .assemblyKeyFlag d => d.home
  | .fieldKeyFlag d => d.home
  | .valueKeyFlag d => d.home
  | .resolveDefinition _ d => d.home
  | .resolveModule m => m
  | .exported m _ => m
  | .findExported m _ _ => m
  | .findVisible m _ _ => m
  | .resolveReference m _ _ _ => m

/-- The query is about the module or about something that stands in it. -/
def Of (m : Module) : Query → Prop
  | .aggregate a => m.Has a
  | .assemblyKeyFlag d => m.Has (.assemblyFlags d)
  | .fieldKeyFlag d => m.Has (.fieldFlags d)
  | .valueKeyFlag d => m.Has (.fieldFlags d)
  | .resolveDefinition k d => m.Reached (.definition k d)
  | .resolveModule n => n = m
  | .exported n _ => n = m
  | .findExported n _ _ => n = m
  | .findVisible n _ _ => n = m
  | .resolveReference n _ _ _ => n = m

theorem Of.home {m : Module} {q : Query} (h : q.Of m) : q.home = m := by
  cases q with
  | aggregate a => exact Module.Has.home h
  | assemblyKeyFlag d => exact Module.Has.home h
  | fieldKeyFlag d => exact Module.Has.home h
  | valueKeyFlag d => exact Module.Has.home h
  | resolveDefinition k d => exact Module.Reached.home h
  | resolveModule n => exact h
  | exported n k => exact h
  | findExported n k name => exact h
  | findVisible n k name => exact h
  | resolveReference n k reference containing => exact h

/-- What a query gives while its module is held. -/
def answer : (q : Query) → Except ModelFault q.Answer
  | .aggregate a => a.part.build.outcome
  | .assemblyKeyFlag d => (d.assemblyFlags.map FlagSet.jsonKeyFlag?).build.outcome
  | .fieldKeyFlag d => (d.fieldFlags.map FlagSet.jsonKeyFlag?).build.outcome
  | .valueKeyFlag d => (d.fieldFlags.map d.definition.valueKeyFlag?).build.outcome
  | .resolveDefinition k d => Store.firstFault (outcomes (Placed.parts k d))
  | .resolveModule m => Store.firstFault (outcomes m.parts)
  | .exported m k => .ok (m.exports k).values
  | .findExported m k name => .ok (m.exported? k name)
  | .findVisible m k name => .ok (m.visible? k name)
  | .resolveReference m k reference containing => (m.resolve k reference containing).outcome

/-- What a query gives depends on the query alone, not on what was asked before. -/
theorem fst_request {q : Query} {s : Store} (h : s.Clear q.home.id) :
    (q.request s).1 = q.answer := by
  cases q with
  | aggregate a =>
    refine Store.fst_demand ?_
    rw [a.of_part.home]
    exact h
  | assemblyKeyFlag d => exact Store.fst_demand h
  | fieldKeyFlag d => exact Store.fst_demand h
  | valueKeyFlag d => exact Store.fst_demand h
  | resolveDefinition k d => exact Store.fst_forM (fun p hp => Placed.of_mem_parts hp) h
  | resolveModule m => exact Store.fst_resolveAll h
  | exported m k => rfl
  | findExported m k name => rfl
  | findVisible m k name => rfl
  | resolveReference m k reference containing =>
    exact m.fst_resolveReference k reference containing s

end Query

/-- What holds along each step holds along every query. -/
theorem Store.Law.request {P : Module → Prop} {R : Store → Store → Prop} (h : Law P R) {q : Query}
    (hq : P q.home) (s : Store) : R s (q.request s).2 := by
  cases q with
  | aggregate a => exact h.demand hq a.of_part s
  | assemblyKeyFlag d => exact h.demand hq (d.of_assemblyFlags.map _) s
  | fieldKeyFlag d => exact h.demand hq (d.of_fieldFlags.map _) s
  | valueKeyFlag d => exact h.demand hq (d.of_fieldFlags.map _) s
  | resolveDefinition k d => exact h.forM hq (fun p hp => Placed.of_mem_parts hp) s
  | resolveModule m => exact h.resolveAll hq s
  | exported m k => exact h.consult hq s
  | findExported m k name => exact h.consult hq s
  | findVisible m k name =>
    exact h.consultAll (fun i hi => h.imports hq (Module.mem_of_consulted hi)) s
  | resolveReference m k reference containing =>
    rw [Query.request, Module.snd_resolveReference]
    exact h.trace hq (m.fits_resolve k reference containing).steps s

def Store.after (s : Store) (qs : List Query) : Store := qs.foldl (fun t q => (q.request t).2) s

theorem Store.Law.after {P : Module → Prop} {R : Store → Store → Prop} (h : Law P R)
    {qs : List Query} (hqs : ∀ q ∈ qs, P q.home) (s : Store) : R s (s.after qs) := by
  induction qs generalizing s with
  | nil => exact h.refl s
  | cons q qs ih =>
    obtain ⟨hq, hqs⟩ := List.forall_mem_cons.mp hqs
    exact h.trans (h.request hq s) (ih hqs (q.request s).2)

end InfoModel

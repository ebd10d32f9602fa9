import InfoModel.Model.Resolution

/-!
# Building modules

A module is put together and then, if the settings say so, resolved at once; it is built only if
both succeed. Every attempt takes a new number, so that what is remembered of one module never
concerns another.
-/

namespace InfoModel

def Request.newId : Request Nat := do
  let s ← get
  set { s with nextId := s.nextId + 1 }
  return s.nextId

def Module.builtEvent (m : Module) : Event :=
  .builtModule m.shortName (m.definitions .assembly).size (m.definitions .field).size
    (m.definitions .flag).size m.imports.length

/-- Builds the module declared by `d` at `location`, with imports that are modules already. -/
def Module.build (setup : Setup) (d : ModuleDecl) (location : Option Uri)
    (imports : List Module) : Request Module := do
  let id ← Request.newId
  let m ← MonadExcept.ofExcept (assemble setup id d location imports)
  Request.notice m.builtEvent
  if setup.settings.eagerResolution then m.resolveAll
  return m

end InfoModel

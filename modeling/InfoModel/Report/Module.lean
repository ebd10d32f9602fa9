import InfoModel.Model.Placed
import InfoModel.Report.Basic

/-!
# Reports of modules

A module is shown with what it declares about itself, its source, its settings and the short names
of its imports. Modules and definitions also have a short form of one line that names their parts.
-/

namespace InfoModel
open InfoModel.Text

def Module.report (m : Module) : Tree :=
  .record [("short_name", .text m.shortName), ("schema_name", .optionText m.info.schemaName),
    ("schema_version", .optionText m.info.schemaVersion), ("namespace", .optionText m.space),
    ("json_base_uri", .optionText (m.info.jsonBaseUri.map Uri.text)),
    ("remarks", .optionText m.info.remarks),
    ("location", .optionText (m.info.source.location.map Uri.text)),
    ("source", m.info.source.detailReport),
    ("eager", .bool m.info.setup.settings.eagerResolution),
    ("warn", .bool m.info.setup.settings.warnOnShadowing),
    ("imports", .texts (m.imports.map Module.shortName))]

def optionDetail (shown : α → String) : Option α → String
  | some a => "Some(" ++ shown a ++ ")"
  | none => "None"

/-- The form of something with named parts; `isOpen` says that it has others too. -/
def partsDetail (name : String) (parts : List (String × String)) (isOpen : Bool) : String :=
  let shown := parts.map fun (key, value) => key ++ ": " ++ value
  name ++ " \x7b " ++ ", ".intercalate (if isOpen then shown ++ [".."] else shown) ++ " \x7d"

def Module.detail (m : Module) : String :=
  partsDetail "Module" [("short_name", quoted m.shortName),
    ("namespace", optionDetail quoted m.space),
    ("location", optionDetail quoted (m.info.source.location.map Uri.text)),
    ("assemblies", natText (m.definitions .assembly).size),
    ("fields", natText (m.definitions .field).size),
    ("flags", natText (m.definitions .flag).size),
    ("imports", "[" ++ ", ".intercalate (m.imports.map fun i => quoted i.shortName) ++ "]")] false

/-- The name of a kind of definition in its one-line form, and the part shown only of that kind. -/
def Kind.detail : (k : Kind) → k.Definition → String × (String × String)
  | .assembly, d =>
    ("AssemblyDefinition", ("root_name", optionDetail QName.detail d.rootName))
  | .field, d => ("FieldDefinition", ("datatype", quoted d.value.datatype.name))
  | .flag, d => ("FlagDefinition", ("datatype", quoted d.value.datatype.name))

def Placed.detail (d : Placed k) : String :=
  let (name, own) := k.detail d.definition
  partsDetail name [("name", d.name.detail), ("scope", d.head.scope.name),
    ("position", optionDetail natText d.head.position), own] true

end InfoModel

import InfoModel.Model.Content
import InfoModel.Report.Constraint

/-!
# Reports of definitions, instances and models

Definitions and instances are shown with their names and documentation; the flags, models and
alternatives also with their views by name, in which an instance is given by its index. The
instances are shown by the caller, who may show more of them than is done here.
-/

namespace InfoModel
open InfoModel.Text

def Tree.optionCount (n : Option UInt32) : Tree := .option (fun n => .nat n.toNat) n

def DefinitionHead.entries (h : DefinitionHead) : List (String × Tree) :=
  [("scope", .text h.scope.text), ("index", .optionCount h.index),
    ("use_index", .optionCount h.useIndex), ("position", .option .nat h.position),
    ("inline", .bool h.position.isNone), ("source", h.source.report), ("name", h.name.report),
    ("effective_name", h.effectiveName.report)] ++ h.documentation.entries

def ValueType.entries (v : ValueType) : List (String × Tree) :=
  [("datatype", .text v.datatype.name), ("default", .option Value.report v.default)]

/-- What is shown only of definitions of a kind. -/
def Kind.ownEntries : (k : Kind) → k.Definition → List (String × Tree)
  | .assembly, d =>
    [("root_name", .option QName.report d.rootName),
      ("root_index", .optionCount d.decl.rootIndex), ("is_root", .bool d.isRoot)]
  | .field, d => d.value.entries ++ [("json_value_key", .optionText d.decl.jsonValueKey)]
  | .flag, d => d.value.entries

def Placed.entries (d : Placed k) : List (String × Tree) :=
  ("kind", .text k.text) :: d.head.entries ++ k.ownEntries d.definition

def Placed.label (d : Placed k) : Tree := .list [d.name.report, d.head.source.report]

def Instance.entries (i : Instance k) : List (String × Tree) :=
  [("kind", .text k.text), ("position", .nat i.position), ("form", .text i.form.text),
    ("definition", i.definition.label), ("name", i.name.report),
    ("effective_name", i.name.report)] ++
    i.documentation.entries

def FlagInstance.entries (i : FlagInstance) : List (String × Tree) :=
  i.base.entries ++ [("required", .bool i.required), ("default", .option Value.report i.default)]

def GroupAs.report (g : GroupAs) : Tree :=
  .list [.optionText g.name, .text g.inJson.text, .text g.inXml.text]

def useEntries (o : Occurrence) (g : GroupAs) : List (String × Tree) :=
  [("occurrence", o.report), ("group_as", g.report)]

def Element.entries : Element → List (String × Tree)
  | .assembly i => i.entries
  | .field i => i.entries

def NamedInstance.entries (i : NamedInstance) : List (String × Tree) :=
  i.element.entries ++ useEntries i.occurrence i.groupAs ++
    match i with
    | .assembly _ => []
    | .field f =>
      [("in_xml_wrapped", .bool f.wrapped), ("default", .option Value.report f.default)]

def ChoiceGroup.entries (g : ChoiceGroup) : List (String × Tree) :=
  [("kind", .text "choice-group"), ("position", .nat g.position)] ++
    useEntries g.occurrence g.groupAs ++
    [("group_as_name", .text g.name), ("discriminator", .text g.discriminator),
      ("json_key", .optionText g.head.jsonKey), ("remarks", .optionText g.head.remarks)]

def Alternative.entries (a : Alternative) : List (String × Tree) :=
  a.element.entries ++
    [("discriminator_value", .optionText a.ownDiscriminator),
      ("effective_discriminator_value", .text a.discriminator),
      ("json_key", .optionText a.jsonKey)]

/-- A view by name of the instances that `choose` selects, each with its index. -/
def indexedBy {α β κ : Type} [DecidableEq κ] (choose : α → Option β) (key : β → κ) (as : List α) :
    List (κ × β × Nat) :=
  (NamedMap.byKey (fun e => key e.1) (as.zipIdx.filterMap fun (a, i) =>
    (choose a).map fun b => (b, i))).entries

def indexReport (shown : κ → Tree) (view : List (κ × β × Nat)) : Tree :=
  .list (view.map fun (key, _, i) => .list [shown key, .nat i])

def ofKind? (kind : Kind) (element : α → Element) (a : α) : Option α :=
  if (element a).kind = kind then some a else none

def FlagSet.entries (s : FlagSet) (instances : List Tree) : List (String × Tree) :=
  let view := indexedBy some FlagInstance.localName s.instances
  let index (name : String) : Tree := .option .nat ((view.find? fun e => e.1 = name).map (·.2.2))
  [("len", .nat s.instances.length), ("empty", .bool s.instances.isEmpty),
    ("flags", .list instances),
    ("by_name", .list (s.instances.map fun i => index i.localName)),
    ("json_key", (s.jsonKey.map index).getD .null), ("shared_empty", .bool s.instances.isEmpty)]

def namedRow (e : QName × NamedInstance × Nat) : Tree :=
  let (name, i, index) := e
  .list [name.report, .text i.element.kind.text, .nat index, .text i.element.form.text,
    .nat i.occurrence.min.toNat, .optionText i.groupAs.name]

def Model.kindReport (m : Model) (kind : Kind) : Tree :=
  indexReport QName.report (indexedBy
    (fun i => i.named?.bind (ofKind? kind NamedInstance.element)) NamedInstance.name m.instances)

def Model.report (m : Model) (instances : List Tree) : Tree :=
  .record [("empty", .bool m.instances.isEmpty), ("instances", .list instances),
    ("named", .list ((indexedBy ModelInstance.named? NamedInstance.name m.instances).map namedRow)),
    ("fields", m.kindReport .field), ("assemblies", m.kindReport .assembly),
    ("choices", .list (m.choices.map fun c => .nat c.position)),
    ("choice_groups",
      indexReport .text (indexedBy ModelInstance.group? ChoiceGroup.name m.instances)),
    ("shared_empty", .bool m.instances.isEmpty)]

def Choice.report (c : Choice) (model : Tree) : Tree :=
  .record [("kind", .text "choice"), ("position", .nat c.position), ("model", model)]

def Choice.fullReport (c : Choice) : Tree :=
  c.report ((Model.ofChoice c).report (c.body.map fun i => .record i.entries))

def ModelInstance.report : ModelInstance → Tree
  | .named i => .record i.entries
  | .choice c => c.fullReport
  | .group g => .record g.entries

def Model.fullReport (m : Model) : Tree := m.report (m.instances.map ModelInstance.report)

def alternativeRow (e : QName × Alternative × Nat) : Tree :=
  let (name, a, index) := e
  .list [name.report, .text a.element.kind.text, .nat index]

def Alternatives.kindReport (as : Alternatives) (kind : Kind) : Tree :=
  indexReport QName.report
    (indexedBy (ofKind? kind Alternative.element) Alternative.name as.instances)

def Alternatives.report (as : Alternatives) (instances : List Tree) : Tree :=
  .record [("len", .nat as.size), ("empty", .bool as.instances.isEmpty),
    ("instances", .list instances),
    ("named", .list ((indexedBy some Alternative.name as.instances).map alternativeRow)),
    ("fields", as.kindReport .field), ("assemblies", as.kindReport .assembly),
    ("shared_empty", .bool as.instances.isEmpty)]

def Alternatives.fullReport (as : Alternatives) : Tree :=
  as.report (as.instances.map fun a => .record a.entries)

end InfoModel

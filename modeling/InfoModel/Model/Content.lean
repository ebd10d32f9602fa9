import InfoModel.Model.Instance

/-!
# Flags, models and alternatives

The flags of a definition, the model of an assembly and the alternatives of a group are lists of
instances in the order of their declaration. Each has views by name, in which a name stands where it
is first declared and means the instance that was declared last. What a definition does not declare
is the empty list. Main functions: `FlagSet.build`, `Placed.buildModel`,
`ChoiceGroup.buildAlternatives`.
-/

namespace InfoModel

/-- The flags of a definition, and the name of the one whose value is the key in JSON. -/
structure FlagSet where
  instances : List FlagInstance
  jsonKey : Option String

namespace FlagSet

def byName (s : FlagSet) : NamedMap String FlagInstance := .byKey FlagInstance.localName s.instances

def flag? (s : FlagSet) (name : String) : Option FlagInstance := s.byName.get? name

def jsonKeyFlag? (s : FlagSet) : Option FlagInstance := s.jsonKey.bind s.flag?

/-- Builds the flags that an owner declares. The key in JSON must be one of them. -/
def build (owner : Owner) (jsonKey : Option String) (children : List FlagChildDecl) :
    Build FlagSet := do
  let instances ← Traced.collect (FlagInstance.build owner) [] children
  let s : FlagSet := ⟨instances, jsonKey⟩
  if let some key := jsonKey then
    if (s.flag? key).isNone then
      .fail (.invalidJsonKey key owner.definition.text owner.home.shortName)
  .noticeIf (!children.isEmpty) (.builtFlags owner.definition.text instances.length)
  return s

end FlagSet

def Placed.buildAssemblyFlags (d : Placed .assembly) : Build FlagSet :=
  FlagSet.build d.owner d.decl.jsonKey d.decl.flags

/-- The flags of a field. The flag that holds the key of the value in JSON must be one of them. -/
def Placed.buildFieldFlags (d : Placed .field) : Build FlagSet := do
  let s ← FlagSet.build d.owner d.decl.jsonKey d.decl.flags
  if let some key := d.decl.jsonValueKeyFlag then
    if (s.flag? key).isNone then
      .fail (.invalidJsonValueKeyFlag key d.name.text d.home.shortName)
  return s

/-- The flag of a field that holds the key of its value in JSON, among the field's flags. -/
def FieldDefinition.valueKeyFlag? (d : FieldDefinition) (s : FlagSet) : Option FlagInstance :=
  d.decl.jsonValueKeyFlag.bind s.flag?

structure Choice where
  position : Nat
  body : List NamedInstance

/-- A group of alternatives that occur in any order, each told by the value of a discriminator. The
alternatives are built when they are asked for. -/
structure ChoiceGroup where
  position : Nat
  occurrence : Occurrence
  head : GroupHeadDecl
  alternatives : List AlternativeDecl
  owner : Owner

namespace ChoiceGroup

def name (g : ChoiceGroup) : String := g.head.groupAs.name

def groupAs (g : ChoiceGroup) : GroupAs := .ofDecl (some g.head.groupAs)

def discriminator (g : ChoiceGroup) : String := g.head.discriminator.getD "object-type"

/-- Builds a group behind `earlier` groups of the same model, in its place. One whose name is taken
is noticed. -/
def build (owner : Owner) (site : Site) (earlier : List ChoiceGroup) (head : GroupHeadDecl)
    (alternatives : List AlternativeDecl) : Build ChoiceGroup := do
  let occurrence ← .basic (Occurrence.parse head.minOccurs head.maxOccurs)
  let g : ChoiceGroup :=
    ⟨earlier.length, occurrence, head, alternatives, { owner with site := site }⟩
  .noticeIf (earlier.any fun e => e.name = g.name)
    (.repeatedGroup g.name owner.definition.text)
  return g

end ChoiceGroup

inductive ModelInstance where
  | named (instanceOf : NamedInstance)
  | choice (choice : Choice)
  | group (group : ChoiceGroup)

namespace ModelInstance

def named? : ModelInstance → Option NamedInstance
  | .named i => some i
  | _ => none

def choice? : ModelInstance → Option Choice
  | .choice c => some c
  | _ => none

def group? : ModelInstance → Option ChoiceGroup
  | .group g => some g
  | _ => none

/-- Builds a child of a model behind others. What a choice is between is built with the choice. -/
def build (owner : Owner) (earlier : List ModelInstance) (d : ModelChildDecl) :
    Build ModelInstance := do
  let site := Site.child owner.site earlier.length
  match d with
  | .named child =>
    return .named (← NamedInstance.build owner site (earlier.filterMap named?) child)
  | .choice children =>
    let body ← Traced.collect
      (fun made child => NamedInstance.build owner (.child site made.length) made child) []
      children
    return .choice ⟨(earlier.filterMap choice?).length, body⟩
  | .group head alternatives =>
    return .group (← ChoiceGroup.build owner site (earlier.filterMap group?) head alternatives)

end ModelInstance

structure Model where
  instances : List ModelInstance

namespace Model

def ofChoice (c : Choice) : Model := ⟨c.body.map .named⟩

def elements (m : Model) : List NamedInstance := m.instances.filterMap ModelInstance.named?

def named (m : Model) : NamedMap QName NamedInstance := .byKey NamedInstance.name m.elements

def fields (m : Model) : NamedMap QName FieldInstance :=
  .byKey (fun i => i.base.name) (m.elements.filterMap fun
    | .field i => some i
    | .assembly _ => none)

def assemblies (m : Model) : NamedMap QName AssemblyInstance :=
  .byKey (fun i => i.base.name) (m.elements.filterMap fun
    | .assembly i => some i
    | .field _ => none)

def choices (m : Model) : List Choice := m.instances.filterMap ModelInstance.choice?

def groups (m : Model) : NamedMap String ChoiceGroup :=
  .byKey ChoiceGroup.name (m.instances.filterMap ModelInstance.group?)

end Model

def Placed.buildModel (d : Placed .assembly) : Build Model := do
  let instances ← Traced.collect (ModelInstance.build d.owner) [] d.decl.model
  .noticeIf (!d.decl.model.isEmpty) (.builtModel d.name.text instances.length)
  return ⟨instances⟩

structure Alternative where
  element : Element
  ownDiscriminator : Option String
  jsonKey : Option String

namespace Alternative

def name (a : Alternative) : QName := a.element.name

/-- The value of the discriminator that tells the alternative: its own, or else its local name. -/
def discriminator (a : Alternative) : String := a.ownDiscriminator.getD a.name.localName

def ofDecl (owner : Owner) (jsonKey : Option String) (earlier : List Alternative) :
    AlternativeDecl → Build Alternative
  | .assembly discriminator origin => do
    let position := countElements .assembly origin.form (earlier.map element)
    let base ← Instance.build .assembly owner (.child owner.site earlier.length) position origin
    return ⟨.assembly base, discriminator, jsonKey⟩
  | .field discriminator origin => do
    let position := countElements .field origin.form (earlier.map element)
    let base ← Instance.build .field owner (.child owner.site earlier.length) position origin
    return ⟨.field base, discriminator, jsonKey⟩

/-- Builds an alternative in its place behind others. One whose name is taken is noticed. -/
def build (owner : Owner) (jsonKey : Option String) (earlier : List Alternative)
    (d : AlternativeDecl) : Build Alternative := do
  let a ← ofDecl owner jsonKey earlier d
  .noticeIf (earlier.any fun e => e.name = a.name)
    (.repeatedAlternative a.name.text owner.definition.text)
  return a

end Alternative

structure Alternatives where
  instances : List Alternative

namespace Alternatives

def named (as : Alternatives) : NamedMap QName Alternative := .byKey Alternative.name as.instances

def size (as : Alternatives) : Nat := as.named.size

def fields (as : Alternatives) : NamedMap QName Alternative :=
  .byKey Alternative.name (as.instances.filter fun a => a.element.kind = .field)

def assemblies (as : Alternatives) : NamedMap QName Alternative :=
  .byKey Alternative.name (as.instances.filter fun a => a.element.kind = .assembly)

/-- The first alternative by name that a value of the discriminator tells. -/
def byDiscriminator? (as : Alternatives) (value : String) : Option Alternative :=
  as.named.values.find? fun a => a.discriminator = value

end Alternatives

def ChoiceGroup.buildAlternatives (g : ChoiceGroup) : Build Alternatives := do
  let instances ← Traced.collect (Alternative.build g.owner g.head.jsonKey) [] g.alternatives
  let as : Alternatives := ⟨instances⟩
  .noticeIf (!g.alternatives.isEmpty) (.builtAlternatives g.owner.definition.text as.size)
  return as

end InfoModel

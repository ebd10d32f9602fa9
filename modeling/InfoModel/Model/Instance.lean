import InfoModel.Model.Building

/-!
# Instances

An instance is one use of a definition inside another one. It refers to a visible definition, or it
holds a definition of its own, which stands in the module and the namespace of the definition around
it. The name of an instance is its own name in use, or else its definition's. Names of flags have no
namespace; names of fields and assemblies have that of the module around them. The documentation of
an instance with a definition of its own is the definition's.
-/

namespace InfoModel

/-- An instance of a definition. Its position counts the siblings of its kind and form before it. -/
structure Instance (k : Kind) where
  name : QName
  form : Form
  position : Nat
  documentation : Documentation
  definition : Placed k

/-- The namespace of the names of instances in a module. -/
def Kind.instanceSpace (m : Module) : Kind → Option String
  | .flag => none
  | _ => m.space

namespace Instance
variable {k : Kind}

def ofReference (k : Kind) (owner : Owner) (position : Nat) (r : ReferenceDecl) :
    Build (Instance k) := do
  let d ← owner.home.resolve k r.reference owner.definition
  let name ← .basic (QName.make (k.instanceSpace owner.home)
    (r.useName.getD d.head.effectiveName.localName))
  return ⟨name, .reference, position, r.documentation.toDocumentation, d⟩

/-- The instance that holds the declared definition, in its place `site`. -/
def ofDefinition (k : Kind) (owner : Owner) (site : Site) (position : Nat) (decl : k.Decl) :
    Build (Instance k) := do
  let info := owner.home.info
  let d ← .basic (k.prepare info.setup.registry info.source none decl)
  let head := k.head d
  let name ← .basic (QName.make (k.instanceSpace owner.home) head.effectiveName.localName)
  return ⟨name, .inline, position, head.documentation, ⟨owner.home, site, d⟩⟩

def build (k : Kind) (owner : Owner) (site : Site) (position : Nat) :
    OriginDecl k.Decl → Build (Instance k)
  | .reference r => ofReference k owner position r
  | .inline decl => ofDefinition k owner site position decl

def isInline (i : Instance k) : Bool := i.form = .inline

end Instance

/-- The default of a reference, which must be a value of the definition's datatype. -/
def OriginDecl.readDefault (d : Datatype) : OriginDecl δ → Build (Option Value)
  | .reference r => .basic (r.default.mapM d.parse)
  | .inline _ => .value none

structure FlagInstance where
  base : Instance .flag
  required : Bool
  ownDefault : Option Value

namespace FlagInstance

def localName (i : FlagInstance) : String := i.base.name.localName

/-- The value that stands for a missing flag: the instance's own, or else the definition's. -/
def default (i : FlagInstance) : Option Value :=
  i.ownDefault.or i.base.definition.definition.value.default

/-- Builds a flag behind others of the same definition. A flag whose name is taken is noticed. -/
def build (owner : Owner) (earlier : List FlagInstance) (d : FlagChildDecl) :
    Build FlagInstance := do
  let position := (earlier.filter fun i => i.base.form = d.origin.form).length
  let base ← Instance.build .flag owner (.flag owner.site earlier.length) position d.origin
  let ownDefault ← d.origin.readDefault base.definition.definition.value.datatype
  let i : FlagInstance := ⟨base, isYes d.required, ownDefault⟩
  .noticeIf (earlier.any fun e => e.localName = i.localName)
    (.repeatedFlag base.name.text owner.definition.text)
  return i

end FlagInstance

structure GroupAs where
  name : Option String
  inJson : JsonGrouping
  inXml : XmlGrouping
deriving Repr, DecidableEq

def GroupAs.ofDecl : Option GroupAsDecl → GroupAs
  | some d => ⟨some d.name, d.inJson.getD .default, d.inXml.getD .default⟩
  | none => ⟨none, .default, .default⟩

structure AssemblyInstance where
  base : Instance .assembly
  occurrence : Occurrence
  groupAs : GroupAs

/-- A field in a model. It is wrapped if its value stands in an element of its own in XML. -/
structure FieldInstance where
  base : Instance .field
  occurrence : Occurrence
  groupAs : GroupAs
  wrapped : Bool
  ownDefault : Option Value

def FieldInstance.default (i : FieldInstance) : Option Value :=
  i.ownDefault.or i.base.definition.definition.value.default

def UseDecl.readOccurrence (d : UseDecl) : Build Occurrence :=
  .basic (Occurrence.parse d.minOccurs d.maxOccurs)

/-- An assembly or field, as what all instances have alike. -/
inductive Element where
  | assembly (base : Instance .assembly)
  | field (base : Instance .field)

namespace Element

def kind : Element → Kind
  | .assembly _ => .assembly
  | .field _ => .field

def name : Element → QName
  | .assembly i => i.name
  | .field i => i.name

def form : Element → Form
  | .assembly i => i.form
  | .field i => i.form

end Element

/-- An assembly or field in a model. -/
inductive NamedInstance where
  | assembly (instanceOf : AssemblyInstance)
  | field (instanceOf : FieldInstance)

namespace NamedInstance

def element : NamedInstance → Element
  | .assembly i => .assembly i.base
  | .field i => .field i.base

def name (i : NamedInstance) : QName := i.element.name

def occurrence : NamedInstance → Occurrence
  | .assembly i => i.occurrence
  | .field i => i.occurrence

def groupAs : NamedInstance → GroupAs
  | .assembly i => i.groupAs
  | .field i => i.groupAs

end NamedInstance

/-- The number of elements of a kind and form. -/
def countElements (kind : Kind) (form : Form) (es : List Element) : Nat :=
  (es.filter fun e => e.kind = kind ∧ e.form = form).length

def NamedInstance.ofDecl (owner : Owner) (site : Site) (earlier : List NamedInstance) :
    NamedChildDecl → Build NamedInstance
  | .assembly use origin => do
    let position := countElements .assembly origin.form (earlier.map element)
    let base ← Instance.build .assembly owner site position origin
    let occurrence ← use.readOccurrence
    return .assembly ⟨base, occurrence, .ofDecl use.groupAs⟩
  | .field use inXml origin => do
    let position := countElements .field origin.form (earlier.map element)
    let base ← Instance.build .field owner site position origin
    let ownDefault ← origin.readDefault base.definition.definition.value.datatype
    let occurrence ← use.readOccurrence
    return .field ⟨base, occurrence, .ofDecl use.groupAs, inXml ≠ some .unwrapped, ownDefault⟩

/-- Builds an assembly or field in its place behind others. One whose name is taken is noticed. -/
def NamedInstance.build (owner : Owner) (site : Site) (earlier : List NamedInstance)
    (d : NamedChildDecl) : Build NamedInstance := do
  let i ← ofDecl owner site earlier d
  .noticeIf (earlier.any fun e => e.name = i.name)
    (.repeatedInstance i.name.text owner.definition.text)
  return i

end InfoModel

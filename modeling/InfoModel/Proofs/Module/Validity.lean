import InfoModel.Proofs.Fault
import InfoModel.Proofs.Module.Registration

/-!
# Valid definitions

A definition is valid on its own if its names are non-colonized names, its datatype is registered
and its default is a value of the datatype. It can be prepared if it is valid, and if it is not, its
fault is that of the first name that is none, or else that of its value. Main statements:
`Kind.faultOf?_prepare`, `Kind.fault?_eq_none_iff`.
-/

namespace InfoModel

def ncNameFault? (text : String) : Option Fault :=
  (nameFault? text.toList).map (Fault.invalidName text)

theorem ncNameFault?_eq_none_iff {text : String} :
    ncNameFault? text = none ↔ isNcName text.toList = true := by
  unfold ncNameFault? isNcName
  rw [Option.map_eq_none_iff, Option.isNone_iff_eq_none]

theorem QName.faultOf?_make (space : Option String) (localName : String) :
    faultOf? (make space localName) = ncNameFault? localName := by
  unfold make ncNameFault?
  cases nameFault? localName.toList with
  | none => rfl
  | some cause => rfl

theorem QName.isNcName_of_make {space : Option String} {localName : String} {q : QName}
    (h : make space localName = .ok q) : isNcName q.localName.toList = true := by
  have hfault : faultOf? (make space localName) = none := faultOf?_eq_none_iff.mpr ⟨q, h⟩
  rw [faultOf?_make, ncNameFault?_eq_none_iff] at hfault
  unfold make at h
  split at h
  · cases h
  · cases h
    exact hfault

def ValueDecl.typeName (d : ValueDecl) : String := d.datatype.getD Datatype.string.name

def ValueDecl.Valid (r : Registry) (d : ValueDecl) : Prop :=
  ∃ datatype, r.lookup d.typeName = some datatype ∧
    ∀ text, d.default = some text → ∃ v, datatype.parse text = .ok v

def ValueDecl.fault? (r : Registry) (d : ValueDecl) : Option Fault :=
  match r.lookup d.typeName with
  | none => some (.unknownDatatype d.typeName)
  | some datatype => d.default.bind fun text => faultOf? (datatype.parse text)

theorem ValueDecl.fault?_eq_none_iff {r : Registry} {d : ValueDecl} :
    d.fault? r = none ↔ d.Valid r := by
  unfold fault? Valid
  cases r.lookup d.typeName with
  | none => simp
  | some datatype => simp [Option.bind_eq_none_iff, faultOf?_eq_none_iff]

theorem ValueType.faultOf?_prepare (r : Registry) (d : ValueDecl) :
    faultOf? (prepare r d) = d.fault? r := by
  have hdefault : ∀ datatype : Datatype,
      faultOf? (d.default.mapM datatype.parse >>= fun default =>
        (.ok ⟨datatype, default⟩ : Except Fault ValueType)) =
      d.default.bind fun text => faultOf? (datatype.parse text) := by
    intro datatype
    rw [faultOf?_bind_none fun _ => rfl, faultOf?_mapM]
  unfold prepare ValueDecl.fault? Registry.resolveOrDefault Registry.resolve ValueDecl.typeName
  cases r.lookup (d.datatype.getD Datatype.string.name) with
  | none => rfl
  | some datatype => exact hdefault datatype

/-- The names of a declaration, in the order in which they are looked at. -/
def DefinitionHeadDecl.names (d : DefinitionHeadDecl) : List String := d.name :: d.useName.toList

namespace Kind

def declaredNames : (k : Kind) → k.Decl → List String
  | .assembly, d => d.head.names ++ d.rootName.toList
  | .field, d => d.head.names
  | .flag, d => d.head.names

def valueDecl? : (k : Kind) → k.Decl → Option ValueDecl
  | .assembly, _ => none
  | .field, d => some d.value
  | .flag, d => some d.value

/-- The definition is valid on its own. -/
structure Valid (r : Registry) (k : Kind) (d : k.Decl) : Prop where
  names : ∀ name ∈ k.declaredNames d, isNcName name.toList = true
  value : ∀ v, k.valueDecl? d = some v → v.Valid r

/-- What is wrong with a definition on its own: with the first of its names that is none, or else
with its value. -/
def fault? (r : Registry) (k : Kind) (d : k.Decl) : Option Fault :=
  ((k.declaredNames d).findSome? ncNameFault?).or ((k.valueDecl? d).bind (ValueDecl.fault? r))

theorem fault?_eq_none_iff {r : Registry} {k : Kind} {d : k.Decl} :
    k.fault? r d = none ↔ k.Valid r d := by
  unfold fault?
  rw [Option.or_eq_none_iff, List.findSome?_eq_none_iff, Option.bind_eq_none_iff]
  constructor
  · rintro ⟨hnames, hvalue⟩
    exact ⟨fun n hn => ncNameFault?_eq_none_iff.mp (hnames n hn),
      fun v hv => ValueDecl.fault?_eq_none_iff.mp (hvalue v hv)⟩
  · rintro ⟨hnames, hvalue⟩
    exact ⟨fun n hn => ncNameFault?_eq_none_iff.mpr (hnames n hn),
      fun v hv => ValueDecl.fault?_eq_none_iff.mpr (hvalue v hv)⟩

end Kind

theorem DefinitionHead.faultOf?_prepare (source : Source) (position : Option Nat)
    (d : DefinitionHeadDecl) :
    faultOf? (prepare source position d) = d.names.findSome? ncNameFault? := by
  have hnames : d.names.findSome? ncNameFault? =
      (ncNameFault? d.name).or (d.useName.bind ncNameFault?) := by
    unfold DefinitionHeadDecl.names
    cases d.useName with
    | none => cases h : ncNameFault? d.name <;> simp [h]
    | some useName => cases h : ncNameFault? d.name <;> simp [h]
  rw [hnames, ← QName.faultOf?_make source.context.defaultSpace]
  refine faultOf?_bind_of fun name _ => ?_
  cases hu : d.useName with
  | none => rfl
  | some useName =>
    show faultOf? (QName.make source.context.defaultSpace useName >>= fun _ => _) = _
    rw [faultOf?_bind_none fun _ => rfl, QName.faultOf?_make]
    rfl

namespace Kind
variable {r : Registry} {source : Source} {position : Option Nat} {k : Kind} {d : k.Decl}
  {definition : k.Definition}

theorem faultOf?_prepare (r : Registry) (source : Source) (position : Option Nat) (k : Kind)
    (d : k.Decl) : faultOf? (k.prepare r source position d) = k.fault? r d := by
  have hvalue : ∀ (v : ValueDecl) {α : Type} (f : ValueType → Except Fault α),
      (∀ t, faultOf? (f t) = none) → faultOf? (ValueType.prepare r v >>= f) = v.fault? r := by
    intro v α f hf
    rw [faultOf?_bind_none hf, ValueType.faultOf?_prepare]
  unfold fault?
  cases k with
  | assembly =>
    have hroot : ∀ head : DefinitionHead,
        faultOf? (d.rootName.mapM (QName.make source.context.defaultSpace) >>= fun rootName =>
          (.ok ⟨head, rootName, d⟩ : Except Fault AssemblyDefinition)) =
        d.rootName.toList.findSome? ncNameFault? := by
      intro head
      rw [faultOf?_bind_none fun _ => rfl, faultOf?_mapM]
      cases d.rootName with
      | none => rfl
      | some name => simp [QName.faultOf?_make]
    -- the name as a root is looked at after the names of the head
    have hnames : (Kind.declaredNames .assembly d).findSome? ncNameFault? =
        (d.head.names.findSome? ncNameFault?).or (d.rootName.toList.findSome? ncNameFault?) :=
      List.findSome?_append
    rw [hnames, ← DefinitionHead.faultOf?_prepare source position]
    show _ = Option.or _ none
    rw [Option.or_none]
    exact faultOf?_bind_of fun head _ => hroot head
  | field =>
    show _ = (d.head.names.findSome? ncNameFault?).or (d.value.fault? r)
    rw [← DefinitionHead.faultOf?_prepare source position]
    exact faultOf?_bind_of fun head _ => hvalue d.value _ fun _ => rfl
  | flag =>
    show _ = (d.head.names.findSome? ncNameFault?).or (d.value.fault? r)
    rw [← DefinitionHead.faultOf?_prepare source position]
    exact faultOf?_bind_of fun head _ => hvalue d.value _ fun _ => rfl

end Kind

def Sample.textSetup : Setup := ⟨{}, ⟨SortedMap.empty.insert "string" .string⟩⟩

end InfoModel

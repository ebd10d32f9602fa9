import InfoModel.Model.Reader
import InfoModel.Proofs.Tree.Requoted

/-!
# Declarations from documents with quoted scalars

Whether the scalars of a module are quoted or bare makes no difference to what is declared: every
reader makes the same of a document and of one that quotes some of its scalars. Main statement:
`ModuleDecl.ofTree?_eq`.
-/

namespace InfoModel
open InfoModel.Tree (Requoted)

variable {t t' : Tree}

theorem AllowedValue.ofTree?_eq (h : Requoted .value t t') : ofTree? t = ofTree? t' := by
  have hvalue : t.field "value" Tree.scalarText? = t'.field "value" Tree.scalarText? :=
    h.field_of_read rfl fun _ _ _ hu => hu.scalarText?_eq
  unfold ofTree? Tree.optionalText
  rw [hvalue, h.optionalScalar_eq rfl, h.optional_eq rfl]

theorem ValueCheckDecl.ofTree?_eq (h : Requoted .rule t t') : ofTree? t = ofTree? t' := by
  have henums : t.items "enums" AllowedValue.ofTree? = t'.items "enums" AllowedValue.ofTree? :=
    h.items_of_read rfl fun _ _ _ hu => AllowedValue.ofTree?_eq hu
  have hother : t.optionalScalar "allow-other" = t'.optionalScalar "allow-other" :=
    h.optionalScalar_eq rfl
  unfold ofTree? Tree.typeName? Tree.optionalText
  simp (disch := decide) only [henums, hother, h.field_eq, h.optional_eq, h.items_eq]

theorem ModelCheckDecl.ofTree?_eq (h : Requoted .rule t t') : ofTree? t = ofTree? t' := by
  have hvalue := ValueCheckDecl.ofTree?_eq h
  have hmin : t.optionalScalar "min-occurs" = t'.optionalScalar "min-occurs" :=
    h.optionalScalar_eq rfl
  have hmax : t.optionalScalar "max-occurs" = t'.optionalScalar "max-occurs" :=
    h.optionalScalar_eq rfl
  unfold ofTree? Tree.typeName? Tree.optionalText
  simp (disch := decide) only [hvalue, hmin, hmax, h.field_eq, h.optional_eq, h.items_eq]

theorem ConstraintDecl.ofTree?_eq {γ : Type} {check : Tree → Option γ}
    (hcheck : ∀ u u', Requoted .rule u u' → check u = check u') (h : Requoted .block t t') :
    ofTree? check t = ofTree? check t' := by
  have hrule : ∀ u u', Requoted .rule u u' →
      RuleDecl.ofTree? check u = RuleDecl.ofTree? check u' := by
    intro u u' hu
    unfold RuleDecl.ofTree? RuleHeadDecl.ofTree? DocumentationDecl.ofTree? Tree.optionalText
    simp (disch := decide) only [hcheck u u' hu, hu.optional_eq, hu.items_eq]
  have hrules : t.items "rules" (RuleDecl.ofTree? check) =
      t'.items "rules" (RuleDecl.ofTree? check) :=
    h.items_of_read rfl fun u u' _ hu => hrule u u' hu
  unfold ofTree?
  rw [h.isRecord_eq, h.items_eq rfl, hrules]

section
variable (h : Requoted .declared t t')
include h

theorem DefinitionHeadDecl.ofTree?_eq {useIndex : Tree → Option (Option UInt32)}
    (hindex : useIndex t = useIndex t') : ofTree? useIndex t = ofTree? useIndex t' := by
  unfold ofTree? DocumentationDecl.ofTree? Tree.optionalText
  simp (disch := decide) only [hindex, h.field_eq, h.optional_eq, h.items_eq]

theorem ValueDecl.ofTree?_eq : ofTree? t = ofTree? t' := by
  unfold ofTree? Tree.optionalText
  rw [h.optional_eq rfl, h.optionalScalar_eq rfl]

theorem ReferenceDecl.ofTree?_eq {default : Tree → Option (Option String)}
    (hdefault : default t = default t') : ofTree? default t = ofTree? default t' := by
  unfold ofTree? DocumentationDecl.ofTree? Tree.optionalText
  simp (disch := decide) only [hdefault, h.field_eq, h.optional_eq, h.items_eq]

theorem optional_constraint_eq {γ : Type} {check : Tree → Option γ}
    (hcheck : ∀ u u', Requoted .rule u u' → check u = check u') :
    t.optional "constraint" (ConstraintDecl.ofTree? check) =
      t'.optional "constraint" (ConstraintDecl.ofTree? check) :=
  h.optional_of_read rfl fun _ _ _ hu => ConstraintDecl.ofTree?_eq hcheck hu

theorem FlagDecl.ofTree?_eq : ofTree? t = ofTree? t' := by
  unfold ofTree? ValueConstraintDecl.ofTree?
  rw [DefinitionHeadDecl.ofTree?_eq h rfl, ValueDecl.ofTree?_eq h,
    optional_constraint_eq h fun _ _ => ValueCheckDecl.ofTree?_eq]

theorem FlagChildDecl.ofTree?_eq : ofTree? t = ofTree? t' := by
  have hrequired : t.optionalScalar "required" = t'.optionalScalar "required" :=
    h.optionalScalar_eq rfl
  have hdefault : t.ownDefault = t'.ownDefault := h.optionalScalar_eq rfl
  unfold ofTree? Tree.typeName?
  rw [hrequired, h.field_eq rfl, ReferenceDecl.ofTree?_eq h hdefault, FlagDecl.ofTree?_eq h]

theorem useIndex_eq : t.useIndex = t'.useIndex := h.optional_eq rfl Tree.count?

theorem items_flags_eq :
    t.items "flags" FlagChildDecl.ofTree? = t'.items "flags" FlagChildDecl.ofTree? :=
  h.items_of_read rfl fun _ _ _ hu => FlagChildDecl.ofTree?_eq hu

theorem FieldDecl.ofTree?_eq : ofTree? t = ofTree? t' := by
  unfold ofTree? ValueConstraintDecl.ofTree? Tree.optionalText
  rw [DefinitionHeadDecl.ofTree?_eq h (useIndex_eq h), ValueDecl.ofTree?_eq h, items_flags_eq h,
    optional_constraint_eq h fun _ _ => ValueCheckDecl.ofTree?_eq]
  simp (disch := decide) only [h.optional_eq]

theorem UseDecl.ofTree?_eq : ofTree? t = ofTree? t' := by
  have hmax : t.optionalScalar "max-occurs" = t'.optionalScalar "max-occurs" :=
    h.optionalScalar_eq rfl
  unfold ofTree?
  simp (disch := decide) only [hmax, h.optional_eq]

theorem GroupHeadDecl.ofTree?_eq : ofTree? t = ofTree? t' := by
  have hmax : t.optionalScalar "max-occurs" = t'.optionalScalar "max-occurs" :=
    h.optionalScalar_eq rfl
  unfold ofTree? Tree.optionalText
  simp (disch := decide) only [hmax, h.optional_eq, h.field_eq]

end

/-- That the items are smaller than the record has no part in what is read. -/
theorem Tree.itemsBelow_eq {α : Type} (t : Tree) (key : String) (read : Tree → Option α) :
    (t.itemsBelow key fun u _ => read u) = t.items key read := by
  have hattach : ∀ ts : List Tree, (ts.attach.mapM fun u => read u.1) = ts.mapM read := by
    intro ts
    calc (ts.attach.mapM fun u => read u.1)
      _ = (ts.attach.map Subtype.val).mapM read := List.mapM_map.symm
      _ = ts.mapM read := by rw [List.attach_map_subtype_val]
  unfold itemsBelow
  split
  · next hu => rw [items, hu]
  · next ts hu =>
    have hitems : t.items key read = ts.mapM read := by rw [items, hu]
    exact (hattach ts).trans hitems.symm
  · next u hnone hu =>
    rw [items, hu]
    cases u with
    | list ts => exact (hnone ts rfl).elim
    | _ => rfl

structure ReadAlike (t t' : Tree) : Prop where
  assembly : AssemblyDecl.ofTree? t = AssemblyDecl.ofTree? t'
  named : NamedChildDecl.ofTree? t = NamedChildDecl.ofTree? t'
  child : ModelChildDecl.ofTree? t = ModelChildDecl.ofTree? t'
  alternative : AlternativeDecl.ofTree? t = AlternativeDecl.ofTree? t'

theorem optionalItemsBelow_eq {α : Type} {p q : Tree.Place} {read : Tree → Option α} (key : String)
    (h : Requoted p t t') (hkey : p.under key = some q)
    (hread : ∀ u u', sizeOf u < sizeOf t → Requoted q u u' → read u = read u') :
    (t.optionalItemsBelow key fun u _ => read u) =
      t'.optionalItemsBelow key fun u _ => read u := by
  unfold Tree.optionalItemsBelow
  rw [Tree.itemsBelow_eq, Tree.itemsBelow_eq, h.items_of_read hkey hread]
  rcases h.get?_cases hkey with ⟨hu, hu'⟩ | ⟨u, u', hu, hu', hrel⟩
  · rw [hu, hu']
  · rw [hu, hu']
    cases hrel <;> rfl

section
variable (h : Requoted .declared t t')
  (ih : ∀ u u', sizeOf u < sizeOf t → Requoted .declared u u' → ReadAlike u u')
include h ih

theorem AssemblyDecl.ofTree?_eq : ofTree? t = ofTree? t' := by
  have hmodel := optionalItemsBelow_eq "model" h rfl fun u u' hlt hu => (ih u u' hlt hu).child
  have hconstraint := optional_constraint_eq h fun _ _ => ModelCheckDecl.ofTree?_eq
  unfold ofTree? ModelConstraintDecl.ofTree? Tree.optionalText
  simp (disch := decide) only [DefinitionHeadDecl.ofTree?_eq h (useIndex_eq h), items_flags_eq h,
    hmodel, hconstraint, h.optional_eq]

theorem NamedChildDecl.ofTree?_eq : ofTree? t = ofTree? t' := by
  have hdefault : t.ownDefault = t'.ownDefault := h.optionalScalar_eq rfl
  unfold ofTree? Tree.typeName?
  simp (disch := decide) only [UseDecl.ofTree?_eq h, AssemblyDecl.ofTree?_eq h ih,
    FieldDecl.ofTree?_eq h, ReferenceDecl.ofTree?_eq h hdefault,
    ReferenceDecl.ofTree?_eq h (show t.withoutDefault = t'.withoutDefault from rfl),
    h.field_eq, h.optional_eq]

theorem AlternativeDecl.ofTree?_eq : ofTree? t = ofTree? t' := by
  unfold ofTree? Tree.typeName? Tree.optionalText
  simp (disch := decide) only [AssemblyDecl.ofTree?_eq h ih, FieldDecl.ofTree?_eq h,
    ReferenceDecl.ofTree?_eq h (show t.withoutDefault = t'.withoutDefault from rfl),
    h.field_eq, h.optional_eq]

theorem ModelChildDecl.ofTree?_eq : ofTree? t = ofTree? t' := by
  have hchoices : t.items "choices" NamedChildDecl.ofTree? =
      t'.items "choices" NamedChildDecl.ofTree? :=
    h.items_of_read rfl fun u u' hlt hu => (ih u u' hlt hu).named
  have halternatives : t.items "choices" AlternativeDecl.ofTree? =
      t'.items "choices" AlternativeDecl.ofTree? :=
    h.items_of_read rfl fun u u' hlt hu => (ih u u' hlt hu).alternative
  unfold ofTree? Tree.typeName?
  simp (disch := decide) only [Tree.itemsBelow_eq, hchoices, halternatives,
    NamedChildDecl.ofTree?_eq h ih, GroupHeadDecl.ofTree?_eq h, h.field_eq]

end

/-- By induction on the size of the first document. -/
theorem readAlike (h : Requoted .declared t t') : ReadAlike t t' := by
  induction hn : sizeOf t using Nat.strongRecOn generalizing t t' with
  | ind n ih =>
    subst hn
    have hbelow : ∀ u u', sizeOf u < sizeOf t → Requoted .declared u u' → ReadAlike u u' :=
      fun u u' hlt hu => ih (sizeOf u) hlt hu rfl
    exact ⟨AssemblyDecl.ofTree?_eq h hbelow, NamedChildDecl.ofTree?_eq h hbelow,
      ModelChildDecl.ofTree?_eq h hbelow, AlternativeDecl.ofTree?_eq h hbelow⟩

theorem DefinitionDecl.ofTree?_eq (h : Requoted .declared t t') : ofTree? t = ofTree? t' := by
  unfold ofTree? Tree.typeName?
  rw [h.field_eq rfl, (readAlike h).assembly, FieldDecl.ofTree?_eq h, FlagDecl.ofTree?_eq h]

theorem ModuleDecl.ofTree?_eq (h : Requoted .module t t') : ofTree? t = ofTree? t' := by
  have hversion : t.optionalScalar "schema-version" = t'.optionalScalar "schema-version" :=
    h.optionalScalar_eq rfl
  have hdefinitions : t.items "definitions" DefinitionDecl.ofTree? =
      t'.items "definitions" DefinitionDecl.ofTree? :=
    h.items_of_read rfl fun _ _ _ hu => DefinitionDecl.ofTree?_eq hu
  unfold ofTree? Tree.optionalText
  simp (disch := decide) only [hversion, hdefinitions, h.field_eq, h.optional_eq, h.items_eq]

end InfoModel

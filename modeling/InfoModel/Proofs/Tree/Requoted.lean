import InfoModel.Proofs.Tree.Written
import InfoModel.Tree.Field

/-!
# Quoted scalars

Two documents may differ only in that the second quotes scalars which the first has bare: numbers by
their digits and truth values by their words. Where a scalar is read for its text, and nowhere else,
the two mean the same. Which attributes these are depends on the place of a record in the document.
Main statements: `Tree.Requoted.get?_eq`, `Tree.Requoted.get?_cases`,
`Tree.Requoted.scalarText?_eq`.
-/

namespace InfoModel.Tree
open Text

/-- What a part of a document stands for: the whole module, a definition or something in the content
of one, a block of constraints, a rule, an allowed value, or a scalar. -/
inductive Place where
  | module
  | declared
  | block
  | rule
  | value
  | scalar
deriving DecidableEq

/-- What stands under a key of a record, or for a list under the key what its items are, as far as a
scalar that is read for its text may stand there or within. -/
def Place.under : Place → String → Option Place
  | .module, "schema-version" => some .scalar
  | .module, "definitions" => some .declared
  | .declared, "default" => some .scalar
  | .declared, "required" => some .scalar
  | .declared, "max-occurs" => some .scalar
  | .declared, "flags" => some .declared
  | .declared, "model" => some .declared
  | .declared, "choices" => some .declared
  | .declared, "constraint" => some .block
  | .block, "rules" => some .rule
  | .rule, "min-occurs" => some .scalar
  | .rule, "max-occurs" => some .scalar
  | .rule, "allow-other" => some .scalar
  | .rule, "enums" => some .value
  | .value, "value" => some .scalar
  | .value, "deprecated" => some .scalar
  | _, _ => none

mutual

/-- The second tree is the first one with some of its bare scalars quoted. -/
inductive Requoted : Place → Tree → Tree → Prop
  | same (p : Place) (t : Tree) : Requoted p t t
  | integer (n : Int) : Requoted .scalar (.integer n) (.text (intText n))
  | bool (b : Bool) : Requoted .scalar (.bool b) (.text (boolText b))
  | list {p : Place} {ts ts' : List Tree} (items : RequotedItems p ts ts') :
      Requoted p (.list ts) (.list ts')
  | record {p : Place} {es es' : List (String × Tree)} (entries : RequotedEntries p es es') :
      Requoted p (.record es) (.record es')

inductive RequotedItems : Place → List Tree → List Tree → Prop
  | nil (p : Place) : RequotedItems p [] []
  | cons {p : Place} {t t' : Tree} {ts ts' : List Tree} (item : Requoted p t t')
      (rest : RequotedItems p ts ts') : RequotedItems p (t :: ts) (t' :: ts')

inductive RequotedEntries : Place → List (String × Tree) → List (String × Tree) → Prop
  | nil (p : Place) : RequotedEntries p [] []
  | same {p : Place} (e : String × Tree) {es es' : List (String × Tree)}
      (rest : RequotedEntries p es es') : RequotedEntries p (e :: es) (e :: es')
  | changed {p q : Place} {key : String} {t t' : Tree} {es es' : List (String × Tree)}
      (place : p.under key = some q) (value : Requoted q t t') (rest : RequotedEntries p es es') :
      RequotedEntries p ((key, t) :: es) ((key, t') :: es')

end

mutual

/-- The tree with all its scalars quoted that are read for their text. -/
def quoteAll (p : Place) : Tree → Tree
  | .integer n => if p = .scalar then .text (intText n) else .integer n
  | .bool b => if p = .scalar then .text (boolText b) else .bool b
  | .list items => .list (quoteItems p items)
  | .record entries => .record (quoteEntries p entries)
  | t => t

def quoteItems (p : Place) : List Tree → List Tree
  | [] => []
  | t :: ts => quoteAll p t :: quoteItems p ts

def quoteEntries (p : Place) : List (String × Tree) → List (String × Tree)
  | [] => []
  | (key, t) :: es =>
    (key, match p.under key with | some q => quoteAll q t | none => t) :: quoteEntries p es

end

mutual

theorem requoted_quoteAll (p : Place) : ∀ t : Tree, Requoted p t (quoteAll p t)
  | .integer n => by
    unfold quoteAll
    split
    · next hp => exact hp ▸ .integer n
    · exact .same p _
  | .bool b => by
    unfold quoteAll
    split
    · next hp => exact hp ▸ .bool b
    · exact .same p _
  | .list items => by
    unfold quoteAll
    exact .list (requotedItems_quoteItems p items)
  | .record entries => by
    unfold quoteAll
    exact .record (requotedEntries_quoteEntries p entries)
  | .null => .same p _
  | .real _ => .same p _
  | .text _ => .same p _

theorem requotedItems_quoteItems (p : Place) : ∀ ts, RequotedItems p ts (quoteItems p ts)
  | [] => .nil p
  | t :: ts => .cons (requoted_quoteAll p t) (requotedItems_quoteItems p ts)

theorem requotedEntries_quoteEntries (p : Place) :
    ∀ es, RequotedEntries p es (quoteEntries p es)
  | [] => .nil p
  | (key, t) :: es => by
    unfold quoteEntries
    split
    · next q hq =>
      exact .changed hq (requoted_quoteAll q t) (requotedEntries_quoteEntries p es)
    · exact .same (key, t) (requotedEntries_quoteEntries p es)

end

theorem RequotedEntries.valueOf?_eq {p : Place} {es es' : List (String × Tree)}
    (h : RequotedEntries p es es') {key : String} (hkey : p.under key = none) :
    valueOf? es key = valueOf? es' key := by
  unfold valueOf?
  match h with
  | .nil _ => rfl
  | .same e rest =>
    rw [List.find?_cons, List.find?_cons]
    split
    · rfl
    · exact rest.valueOf?_eq hkey
  | @RequotedEntries.changed _ _ k _ _ _ _ place value rest =>
    have hk : (k == key) = false := by
      rw [beq_eq_false_iff_ne]
      rintro rfl
      rw [hkey] at place
      cases place
    rw [List.find?_cons, List.find?_cons]
    dsimp only
    rw [hk]
    exact rest.valueOf?_eq hkey

theorem RequotedEntries.valueOf?_cases {p q : Place} {es es' : List (String × Tree)}
    (h : RequotedEntries p es es') {key : String} (hkey : p.under key = some q) :
    valueOf? es key = none ∧ valueOf? es' key = none ∨
      ∃ u u', valueOf? es key = some u ∧ valueOf? es' key = some u' ∧ Requoted q u u' := by
  unfold valueOf?
  match h with
  | .nil _ => exact .inl ⟨rfl, rfl⟩
  | .same e rest =>
    rw [List.find?_cons, List.find?_cons]
    split
    · exact .inr ⟨e.2, e.2, rfl, rfl, .same q e.2⟩
    · exact rest.valueOf?_cases hkey
  | @RequotedEntries.changed _ _ k t t' _ _ place value rest =>
    rw [List.find?_cons, List.find?_cons]
    dsimp only
    by_cases hk : k = key
    · subst hk
      rw [hkey] at place
      cases place
      rw [beq_self_eq_true]
      exact .inr ⟨t, t', rfl, rfl, value⟩
    · rw [beq_eq_false_iff_ne.mpr hk]
      exact rest.valueOf?_cases hkey

namespace Requoted
variable {p q : Place} {t t' : Tree} {key : String} {α : Type}

theorem get?_eq (h : Requoted p t t') (hkey : p.under key = none) : t.get? key = t'.get? key := by
  cases h with
  | same p t => rfl
  | integer n => rfl
  | bool b => rfl
  | list items => rfl
  | record entries => exact entries.valueOf?_eq hkey

/-- Under a key where scalars may be quoted either both have nothing, or the second has what the
first has, with some of its bare scalars quoted. -/
theorem get?_cases (h : Requoted p t t') (hkey : p.under key = some q) :
    t.get? key = none ∧ t'.get? key = none ∨
      ∃ u u', t.get? key = some u ∧ t'.get? key = some u' ∧ Requoted q u u' := by
  cases h with
  | same p t =>
    cases hu : t.get? key with
    | none => exact .inl ⟨rfl, rfl⟩
    | some u => exact .inr ⟨u, u, rfl, rfl, .same q u⟩
  | integer n => exact .inl ⟨rfl, rfl⟩
  | bool b => exact .inl ⟨rfl, rfl⟩
  | list items => exact .inl ⟨rfl, rfl⟩
  | record entries => exact entries.valueOf?_cases hkey

theorem scalarText?_eq (h : Requoted p t t') : t.scalarText? = t'.scalarText? := by
  cases h with
  | same p t => rfl
  | integer n => exact scalarText?_integer n
  | bool b => exact scalarText?_bool b
  | list items => rfl
  | record entries => rfl

theorem isRecord_eq (h : Requoted p t t') : t.isRecord = t'.isRecord := by
  cases h <;> rfl

section
variable (h : Requoted p t t') (hkey : p.under key = none) (read : Tree → Option α)
include h hkey

theorem field_eq : t.field key read = t'.field key read := by
  unfold field
  rw [h.get?_eq hkey]

theorem optional_eq : t.optional key read = t'.optional key read := by
  unfold optional
  rw [h.get?_eq hkey]

theorem items_eq : t.items key read = t'.items key read := by
  unfold items
  rw [h.get?_eq hkey]

end

end Requoted

theorem RequotedItems.mapM_eq {p : Place} {ts ts' : List Tree} {α : Type} {read : Tree → Option α}
    (h : RequotedItems p ts ts') (hread : ∀ u ∈ ts, ∀ u', Requoted p u u' → read u = read u') :
    ts.mapM read = ts'.mapM read := by
  match h with
  | .nil _ => rfl
  | .cons item rest =>
    obtain ⟨hfirst, hothers⟩ := List.forall_mem_cons.mp hread
    rw [List.mapM_cons, List.mapM_cons, hfirst _ item, rest.mapM_eq hothers]

namespace Requoted
variable {p q : Place} {t t' : Tree} {key : String} {α : Type} {read : Tree → Option α}

section
variable (h : Requoted p t t') (hkey : p.under key = some q)
  (hread : ∀ u u', sizeOf u < sizeOf t → Requoted q u u' → read u = read u')
include h hkey hread

theorem field_of_read : t.field key read = t'.field key read := by
  unfold field
  rcases h.get?_cases hkey with ⟨hu, hu'⟩ | ⟨u, u', hu, hu', hrel⟩
  · rw [hu, hu']
  · rw [hu, hu']
    exact hread u u' (sizeOf_get?_lt hu) hrel

theorem optional_of_read : t.optional key read = t'.optional key read := by
  unfold optional
  rcases h.get?_cases hkey with ⟨hu, hu'⟩ | ⟨u, u', hu, hu', hrel⟩
  · rw [hu, hu']
  · have hsame := hread u u' (sizeOf_get?_lt hu) hrel
    rw [hu, hu']
    cases hrel with
    | same p t => rfl
    | integer n => exact congrArg (Option.map some) hsame
    | bool b => exact congrArg (Option.map some) hsame
    | list items => exact congrArg (Option.map some) hsame
    | record entries => exact congrArg (Option.map some) hsame

theorem items_of_read : t.items key read = t'.items key read := by
  unfold items
  rcases h.get?_cases hkey with ⟨hu, hu'⟩ | ⟨u, u', hu, hu', hrel⟩
  · rw [hu, hu']
  · rw [hu, hu']
    cases hrel with
    | same p t => rfl
    | integer n => rfl
    | bool b => rfl
    | record entries => rfl
    | list items =>
      refine items.mapM_eq fun w hw w' hrel => hread w w' ?_ hrel
      exact Nat.lt_trans (sizeOf_item_lt hw) (sizeOf_get?_lt hu)

end

theorem optionalScalar_eq (h : Requoted p t t') (hkey : p.under key = some q) :
    t.optionalScalar key = t'.optionalScalar key :=
  h.optional_of_read hkey fun _ _ _ hu => hu.scalarText?_eq

end Requoted

end InfoModel.Tree

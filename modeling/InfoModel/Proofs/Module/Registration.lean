import InfoModel.Model.Placed
import InfoModel.Proofs.Collection.Dictionary
import InfoModel.Proofs.Outcome

/-!
# The tables of a module

Whatever a module is put together from, its tables are in order: no name stands twice, every
definition stands under its own name, and every definition has a place among those of its kind. The
definitions of a kind stand in the order of their declaration. Main statements:
`Module.inOrder_of_assemble`, `Module.decl_own_of_assemble`.
-/

namespace InfoModel

theorem orBasic_eq_ok_iff {x : Except Fault α} {a : α} : orBasic x = .ok a ↔ x = .ok a := by
  cases x with
  | ok b => simp [orBasic]
  | error e => simp [orBasic]

/-- The name in use that a definition declares, which is its name if it declares no other. -/
def DefinitionHeadDecl.nameInUse (d : DefinitionHeadDecl) : String := d.useName.getD d.name

def Kind.headDecl : (k : Kind) → k.Decl → DefinitionHeadDecl
  | .assembly, d => d.head
  | .field, d => d.head
  | .flag, d => d.head

theorem Kind.headDecl_of_prepare {r : Registry} {source : Source} {position : Option Nat} {k : Kind}
    {d : k.Decl} {definition : k.Definition} (h : k.prepare r source position d = .ok definition) :
    DefinitionHead.prepare source position (k.headDecl d) = .ok (k.head definition) := by
  cases k with
  | assembly =>
    obtain ⟨head, hh, h⟩ := Except.bind_eq_ok_iff.mp h
    obtain ⟨rootName, -, h⟩ := Except.bind_eq_ok_iff.mp h
    cases h
    exact hh
  | field =>
    obtain ⟨head, hh, h⟩ := Except.bind_eq_ok_iff.mp h
    obtain ⟨value, -, h⟩ := Except.bind_eq_ok_iff.mp h
    cases h
    exact hh
  | flag =>
    obtain ⟨head, hh, h⟩ := Except.bind_eq_ok_iff.mp h
    obtain ⟨value, -, h⟩ := Except.bind_eq_ok_iff.mp h
    cases h
    exact hh

theorem DefinitionHead.of_prepare {source : Source} {position : Option Nat}
    {d : DefinitionHeadDecl} {head : DefinitionHead} (h : prepare source position d = .ok head) :
    QName.make source.context.defaultSpace d.name = .ok head.name ∧
      QName.make source.context.defaultSpace d.nameInUse = .ok head.effectiveName ∧
      head.scope = d.scope.getD .default ∧ head.position = position ∧ head.source = source := by
  obtain ⟨name, hn, h⟩ := Except.bind_eq_ok_iff.mp h
  unfold DefinitionHeadDecl.nameInUse
  cases hu : d.useName with
  | none =>
    rw [hu] at h
    cases h
    exact ⟨hn, hn, rfl, rfl, rfl⟩
  | some useName =>
    rw [hu] at h
    obtain ⟨effectiveName, he, h⟩ := Except.bind_eq_ok_iff.mp h
    cases h
    exact ⟨hn, he, rfl, rfl, rfl⟩

theorem Kind.position_of_prepare {r : Registry} {source : Source} {position : Option Nat} {k : Kind}
    {d : k.Decl} {definition : k.Definition} (h : k.prepare r source position d = .ok definition) :
    (k.head definition).position = position := by
  obtain ⟨-, -, -, hposition, -⟩ := DefinitionHead.of_prepare (Kind.headDecl_of_prepare h)
  exact hposition

namespace Definitions

theorem ofKind_put_self (ds : Definitions) (k : Kind) (d : k.Definition) :
    (ds.put k d).ofKind k = (ds.ofKind k).insert (k.head d).name d := by
  cases k <;> rfl

theorem ofKind_put_of_ne {k k' : Kind} (h : k' ≠ k) (ds : Definitions) (d : k.Definition) :
    (ds.put k d).ofKind k' = ds.ofKind k' := by
  cases k <;> cases k' <;> first | rfl | exact absurd rfl h

/-- No name stands twice, and each definition stands under its name and has a position. -/
structure InOrder (ds : Definitions) : Prop where
  nodup : ∀ k, (ds.ofKind k).keys.Nodup
  named : ∀ k, ∀ e ∈ (ds.ofKind k).entries, e.1 = (k.head e.2).name
  placed : ∀ k, ∀ e ∈ (ds.ofKind k).entries, (k.head e.2).position.isSome

theorem InOrder.empty : Definitions.empty.InOrder := by
  have he : ∀ k, (Definitions.empty.ofKind k).entries = [] := by
    intro k
    cases k <;> rfl
  refine ⟨?_, ?_, ?_⟩
  · intro k
    unfold NamedMap.keys
    rw [he]
    exact List.nodup_nil
  · intro k e h
    rw [he] at h
    exact absurd h List.not_mem_nil
  · intro k e h
    rw [he] at h
    exact absurd h List.not_mem_nil

theorem InOrder.put {ds : Definitions} (h : ds.InOrder) {k : Kind} {d : k.Definition}
    (hd : (k.head d).position.isSome) : (ds.put k d).InOrder := by
  -- only the table of the kind `k` changes, and there only by the new entry
  have hcases : ∀ k', (ds.put k d).ofKind k' = ds.ofKind k' ∨
      ∃ hk : k = k', (ds.put k d).ofKind k' = (ds.ofKind k').insert (k.head d).name (hk ▸ d) := by
    intro k'
    by_cases hk : k = k'
    · subst hk
      exact .inr ⟨rfl, ofKind_put_self ds k d⟩
    · exact .inl (ofKind_put_of_ne (Ne.symm hk) ds d)
  refine ⟨?_, ?_, ?_⟩
  · intro k'
    rcases hcases k' with hs | ⟨rfl, hs⟩
    · rw [hs]
      exact h.nodup k'
    · rw [hs]
      exact NamedMap.nodup_keys_insert (h.nodup k) _ _
  · intro k' e he
    rcases hcases k' with hs | ⟨rfl, hs⟩
    · rw [hs] at he
      exact h.named k' e he
    · rw [hs] at he
      rcases NamedMap.mem_entries_insert he with rfl | he
      · rfl
      · exact h.named k e he
  · intro k' e he
    rcases hcases k' with hs | ⟨rfl, hs⟩
    · rw [hs] at he
      exact h.placed k' e he
    · rw [hs] at he
      rcases NamedMap.mem_entries_insert he with rfl | he
      · exact hd
      · exact h.placed k e he

theorem declare_eq_ok_iff {r : Registry} {source : Source} {ds ds' : Definitions}
    {d : DefinitionDecl} :
    ds.declare r source d = .ok ds' ↔
      ∃ definition, d.kind.prepare r source (some (ds.ofKind d.kind).size) d.definition =
          .ok definition ∧
        (d.kind.head definition).name ∉ (ds.ofKind d.kind).keys ∧
        ds' = ds.put d.kind definition := by
  unfold declare
  rw [Except.bind_eq_ok_iff]
  refine exists_congr fun definition => ?_
  rw [orBasic_eq_ok_iff]
  refine and_congr_right fun _ => ?_
  by_cases hc : (ds.ofKind d.kind).contains (d.kind.head definition).name = true
  · have hm := NamedMap.contains_iff.mp hc
    simp [hc, hm]
  · have hm := fun h => hc (NamedMap.contains_iff.mpr h)
    simp only [hc, Bool.false_eq_true, if_false, Except.ok.injEq]
    exact ⟨fun h => ⟨hm, h.symm⟩, fun h => h.2.symm⟩

theorem InOrder.declare {r : Registry} {source : Source} {ds ds' : Definitions} {d : DefinitionDecl}
    (h : ds.InOrder) (hd : ds.declare r source d = .ok ds') : ds'.InOrder := by
  obtain ⟨definition, hp, -, rfl⟩ := declare_eq_ok_iff.mp hd
  refine h.put ?_
  rw [Kind.position_of_prepare hp]
  rfl

end Definitions

def DefinitionDecl.ofKind? (k : Kind) (d : DefinitionDecl) : Option k.Decl :=
  if h : d.kind = k then some (h ▸ d.definition) else none

def ModuleDecl.definitionsOf (k : Kind) (d : ModuleDecl) : List k.Decl :=
  d.definitions.filterMap (DefinitionDecl.ofKind? k)

namespace Definitions

def decls (ds : Definitions) (k : Kind) : List k.Decl := (ds.ofKind k).values.map k.decl

theorem decls_declare {r : Registry} {source : Source} {ds ds' : Definitions} {d : DefinitionDecl}
    (h : ds.declare r source d = .ok ds') (k : Kind) :
    ds'.decls k = ds.decls k ++ (d.ofKind? k).toList := by
  obtain ⟨definition, hp, hn, rfl⟩ := declare_eq_ok_iff.mp h
  unfold decls DefinitionDecl.ofKind?
  by_cases hk : d.kind = k
  · subst hk
    rw [ofKind_put_self]
    unfold NamedMap.values
    rw [NamedMap.entries_insert_of_not_mem hn, dif_pos rfl, List.map_append, List.map_append]
    show _ ++ [d.kind.decl definition] = _
    rw [Kind.decl_of_prepare hp]
    rfl
  · rw [ofKind_put_of_ne (Ne.symm hk), dif_neg hk]
    exact (List.append_nil _).symm

theorem decls_foldlM {r : Registry} {source : Source} {ds ds' : Definitions}
    {declared : List DefinitionDecl} (h : declared.foldlM (declare r source) ds = .ok ds')
    (k : Kind) : ds'.decls k = ds.decls k ++ declared.filterMap (DefinitionDecl.ofKind? k) := by
  induction declared generalizing ds with
  | nil =>
    cases h
    exact (List.append_nil _).symm
  | cons d declared ih =>
    rw [List.foldlM_cons, Except.bind_eq_ok_iff] at h
    obtain ⟨next, hd, h⟩ := h
    rw [ih h, decls_declare hd, List.append_assoc, List.filterMap_cons]
    cases d.ofKind? k with
    | none => rfl
    | some declared => rfl

end Definitions

namespace Module

theorem inOrder_of_assemble {setup : Setup} {id : Nat} {d : ModuleDecl} {location : Option Uri}
    {imports : List Module} {m : Module} (h : assemble setup id d location imports = .ok m) :
    m.info.definitions.InOrder := by
  obtain ⟨jsonBaseUri, -, h⟩ := Except.bind_eq_ok_iff.mp h
  obtain ⟨definitions, hd, h⟩ := Except.bind_eq_ok_iff.mp h
  cases h
  exact Except.foldlM_keeps (fun _ _ _ hb hs => Definitions.InOrder.declare hb hs)
    Definitions.InOrder.empty hd

theorem decl_own_of_assemble {setup : Setup} {id : Nat} {d : ModuleDecl} {location : Option Uri}
    {imports : List Module} {m : Module} (h : assemble setup id d location imports = .ok m)
    (k : Kind) : (m.own k).map Placed.decl = d.definitionsOf k := by
  obtain ⟨jsonBaseUri, -, h⟩ := Except.bind_eq_ok_iff.mp h
  obtain ⟨definitions, hd, h⟩ := Except.bind_eq_ok_iff.mp h
  cases h
  have he : Definitions.empty.decls k = [] := by
    cases k <;> rfl
  have ho := Definitions.decls_foldlM hd k
  rw [he, List.nil_append] at ho
  unfold own
  rw [List.map_map]
  exact ho

end Module

end InfoModel

import InfoModel.Proofs.Module.Registration
import Mathlib.Logic.Relation

/-!
# Modules and the modules below them

The imports of a module are modules that were put together before it. What holds of a module as soon
as it holds of its imports therefore holds of every module (`Module.induct`). A module is well built
if it and everything below it was put together from declarations.
-/

namespace InfoModel

namespace Module

def Imports (m i : Module) : Prop := i ∈ m.imports

/-- One module imports another, directly or through others. -/
def Below (m b : Module) : Prop := Relation.TransGen Imports m b

/-- A module itself or one below it. -/
def Spans (m b : Module) : Prop := Relation.ReflTransGen Imports m b

/-- What holds of a module as soon as it holds of its imports holds of every module. -/
theorem induct {P : Module → Prop} (step : ∀ m : Module, (∀ i ∈ m.imports, P i) → P m) :
    (m : Module) → P m
  | ⟨info, imports⟩ => step ⟨info, imports⟩ fun i hi => by
    have hs : sizeOf i < sizeOf imports := List.sizeOf_lt_of_mem hi
    exact induct step i
termination_by m => sizeOf m
decreasing_by
  simp only [Module.mk.sizeOf_spec]
  omega

theorem below_of_mem {m i : Module} (h : i ∈ m.imports) : m.Below i := Relation.TransGen.single h

theorem Below.of_import {m i b : Module} (hi : i ∈ m.imports) (h : i.Below b) : m.Below b :=
  Relation.TransGen.head hi h

theorem below_iff {m b : Module} :
    m.Below b ↔ ∃ i ∈ m.imports, i = b ∨ i.Below b := by
  constructor
  · intro h
    obtain ⟨i, hi, h⟩ := Relation.TransGen.head'_iff.mp h
    rcases Relation.reflTransGen_iff_eq_or_transGen.mp h with rfl | h
    · exact ⟨b, hi, .inl rfl⟩
    · exact ⟨i, hi, .inr h⟩
  · rintro ⟨i, hi, rfl | h⟩
    · exact below_of_mem hi
    · exact h.of_import hi

theorem Spans.self (m : Module) : m.Spans m := Relation.ReflTransGen.refl

theorem Spans.of_import {m i b : Module} (hi : i ∈ m.imports) (h : i.Spans b) : m.Spans b :=
  Relation.ReflTransGen.head hi h

theorem Spans.cases_imports {m b : Module} (h : m.Spans b) :
    m = b ∨ ∃ i ∈ m.imports, i.Spans b :=
  Relation.ReflTransGen.cases_head h

theorem exists_below_iff {m : Module} {P : Module → Prop} :
    (∃ b, m.Below b ∧ P b) ↔ ∃ i ∈ m.imports, P i ∨ ∃ b, i.Below b ∧ P b := by
  constructor
  · rintro ⟨b, hb, hp⟩
    obtain ⟨i, hi, rfl | hib⟩ := below_iff.mp hb
    · exact ⟨i, hi, .inl hp⟩
    · exact ⟨i, hi, .inr ⟨b, hib, hp⟩⟩
  · rintro ⟨i, hi, hp | ⟨b, hb, hp⟩⟩
    · exact ⟨i, below_of_mem hi, hp⟩
    · exact ⟨b, hb.of_import hi, hp⟩

/-- A module that was put together from a declaration after everything that it imports, as was all
that it imports. -/
inductive Built : Module → Prop where
  | intro {setup : Setup} {id : Nat} {d : ModuleDecl} {location : Option Uri}
      {imports : List Module} {m : Module}
      (assembled : assemble setup id d location imports = .ok m)
      (below : ∀ i ∈ imports, Built i) (older : ∀ i ∈ imports, i.id < id) : Built m

theorem imports_of_assemble {setup : Setup} {id : Nat} {d : ModuleDecl} {location : Option Uri}
    {imports : List Module} {m : Module} (h : assemble setup id d location imports = .ok m) :
    m.imports = imports := by
  obtain ⟨jsonBaseUri, -, h⟩ := Except.bind_eq_ok_iff.mp h
  obtain ⟨definitions, -, h⟩ := Except.bind_eq_ok_iff.mp h
  cases h
  rfl

theorem id_of_assemble {setup : Setup} {id : Nat} {d : ModuleDecl} {location : Option Uri}
    {imports : List Module} {m : Module} (h : assemble setup id d location imports = .ok m) :
    m.id = id := by
  obtain ⟨jsonBaseUri, -, h⟩ := Except.bind_eq_ok_iff.mp h
  obtain ⟨definitions, -, h⟩ := Except.bind_eq_ok_iff.mp h
  cases h
  rfl

namespace Built
variable {m i b : Module}

theorem of_import (h : m.Built) (hi : i ∈ m.imports) : i.Built := by
  obtain ⟨assembled, below, -⟩ := h
  rw [imports_of_assemble assembled] at hi
  exact below i hi

theorem of_below (h : m.Built) (hb : m.Below b) : b.Built := by
  induction hb with
  | single hi => exact h.of_import hi
  | tail _ hi ih => exact ih.of_import hi

theorem id_lt_of_import (h : m.Built) (hi : i ∈ m.imports) : i.id < m.id := by
  obtain ⟨assembled, -, older⟩ := h
  rw [imports_of_assemble assembled] at hi
  rw [id_of_assemble assembled]
  exact older i hi

theorem id_lt_of_below (h : m.Built) (hb : m.Below b) : b.id < m.id := by
  induction hb with
  | single hi => exact h.id_lt_of_import hi
  | tail hb hi ih => exact Nat.lt_trans ((h.of_below hb).id_lt_of_import hi) ih

theorem inOrder (h : m.Built) : m.info.definitions.InOrder := by
  obtain ⟨assembled, -, -⟩ := h
  exact inOrder_of_assemble assembled

end Built

def ownNames (m : Module) (k : Kind) : List QName := (m.own k).map Placed.name

theorem mem_own_iff {m : Module} {k : Kind} {d : Placed k} :
    d ∈ m.own k ↔ ∃ e ∈ (m.definitions k).entries, m.place k e.2 = d := by
  unfold own NamedMap.values
  simp

theorem Built.of_mem_own {m : Module} (h : m.Built) {k : Kind} {d : Placed k} (hd : d ∈ m.own k) :
    d.home = m ∧ d.site = .global k d.name ∧ d.isInline = false := by
  obtain ⟨e, he, rfl⟩ := mem_own_iff.mp hd
  have hp := h.inOrder.placed k e he
  refine ⟨rfl, rfl, ?_⟩
  show Option.isNone _ = false
  rw [← Option.not_isSome]
  exact congrArg (! ·) hp

theorem Built.ownNames_eq {m : Module} (h : m.Built) (k : Kind) :
    m.ownNames k = (m.definitions k).keys := by
  unfold ownNames own NamedMap.values NamedMap.keys
  rw [List.map_map, List.map_map]
  refine List.map_congr_left ?_
  intro e he
  exact (h.inOrder.named k e he).symm

theorem Built.nodup_ownNames {m : Module} (h : m.Built) (k : Kind) : (m.ownNames k).Nodup := by
  rw [h.ownNames_eq]
  exact h.inOrder.nodup k

theorem own?_eq_some_iff_of_inOrder {m : Module} (h : m.info.definitions.InOrder) {k : Kind}
    {name : QName} {d : Placed k} : m.own? k name = some d ↔ d ∈ m.own k ∧ d.name = name := by
  unfold own?
  rw [Option.map_eq_some_iff, mem_own_iff]
  constructor
  · rintro ⟨definition, hg, rfl⟩
    have he := NamedMap.mem_of_get? hg
    exact ⟨⟨_, he, rfl⟩, (h.named k _ he).symm⟩
  · rintro ⟨⟨e, he, rfl⟩, rfl⟩
    refine ⟨e.2, ?_, rfl⟩
    have hg := NamedMap.get?_of_mem (h.nodup k) he
    rw [h.named k e he] at hg
    exact hg

theorem Built.own?_eq_some_iff {m : Module} (h : m.Built) {k : Kind} {name : QName} {d : Placed k} :
    m.own? k name = some d ↔ d ∈ m.own k ∧ d.name = name :=
  own?_eq_some_iff_of_inOrder h.inOrder

end Module

/-! ### Two modules

A library that shares two assemblies and keeps a third to itself, and a catalog that imports the
library and shares an assembly of its own under a name of the library's. -/

namespace Sample

def assembly (name : String) (scope : Scope) : DefinitionDecl :=
  let head : DefinitionHeadDecl := ⟨name, some scope, none, none, none, ⟨none, none, [], none⟩⟩
  ⟨.assembly, (⟨head, none, none, none, [], [], none⟩ : AssemblyDecl)⟩

def headed (name : String) : DefinitionHeadDecl :=
  ⟨name, none, none, none, none, ⟨none, none, [], none⟩⟩

def libraryDecl : ModuleDecl :=
  ⟨"library", none, none, some "urn:parts", none, none, [], [],
    [assembly "part" .shared, assembly "bolt" .internal, assembly "nut" .shared]⟩

def catalogDecl : ModuleDecl :=
  ⟨"catalog", none, none, some "urn:parts", none, none, ["library.json"], [],
    [assembly "part" .shared]⟩

def setup : Setup := ⟨{}, ⟨SortedMap.empty⟩⟩

def moduleOf (id : Nat) (d : ModuleDecl) (imports : List Module) : Module :=
  match Module.assemble setup id d none imports with
  | .ok m => m
  | .error _ => ⟨⟨id, none, none, none, none, Module.sourceOf d none, setup, .empty⟩, imports⟩

def library : Module := moduleOf 0 libraryDecl []

def catalog : Module := moduleOf 1 catalogDecl [library]

theorem built_library : library.Built := by
  have h : Module.assemble setup 0 libraryDecl none [] = .ok library := rfl
  exact .intro h (fun _ hi => absurd hi List.not_mem_nil) fun _ hi => absurd hi List.not_mem_nil

theorem built_catalog : catalog.Built := by
  have h : Module.assemble setup 1 catalogDecl none [library] = .ok catalog := rfl
  refine .intro h ?_ ?_
  · intro i hi
    rw [List.mem_singleton.mp hi]
    exact built_library
  · intro i hi
    rw [List.mem_singleton.mp hi]
    exact Nat.zero_lt_one

end Sample

end InfoModel

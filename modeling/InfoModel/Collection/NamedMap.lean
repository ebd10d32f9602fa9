/-!
# Dictionaries in order of insertion

A dictionary lists its entries in the order in which their keys were first put in, and an index
beside the entries gives the place of each key. Putting a value under a key that is there already
replaces the value and leaves the entry in its place and the index as it is; a new key gets a last
entry and a place of its own in the index. What is looked up is found through the index alone.
-/

namespace InfoModel

/-- A dictionary whose entries stand in the order of the first insertion of their keys, with an
index that is in step with the entries. -/
structure NamedMap (κ ν : Type) [DecidableEq κ] where
  entries : List (κ × ν)
  index : κ → Option Nat
  index_eq : ∀ k, index k = (entries.map (·.1)).idxOf? k

namespace NamedMap
variable {κ ν : Type} [DecidableEq κ]

def empty : NamedMap κ ν := ⟨[], fun _ => none, fun _ => rfl⟩

def keys (m : NamedMap κ ν) : List κ := m.entries.map (·.1)

def values (m : NamedMap κ ν) : List ν := m.entries.map (·.2)

def size (m : NamedMap κ ν) : Nat := m.entries.length

def isEmpty (m : NamedMap κ ν) : Bool := m.entries.isEmpty

def get? (m : NamedMap κ ν) (k : κ) : Option ν :=
  match m.index k with
  | some i => m.entries[i]?.map (·.2)
  | none => none

def contains (m : NamedMap κ ν) (k : κ) : Bool := (m.index k).isSome

theorem map_fst_set {es : List (κ × ν)} {k : κ} {i : Nat}
    (h : (es.map (·.1)).idxOf? k = some i) (v : ν) :
    (es.set i (k, v)).map (·.1) = es.map (·.1) := by
  obtain ⟨hi, hk, -⟩ := List.idxOf?_eq_some_iff.mp h
  rw [List.map_set]
  show (es.map (·.1)).set i k = _
  rw [← hk, List.set_getElem_self]

theorem idxOf?_concat {ks : List κ} {k : κ} (h : ks.idxOf? k = none) (j : κ) :
    (ks ++ [k]).idxOf? j = if j = k then some ks.length else ks.idxOf? j := by
  unfold List.idxOf? at h ⊢
  rw [List.findIdx?_append]
  by_cases hj : j = k
  · subst hj
    simp [h]
  · have hlast : [k].findIdx? (· == j) = none := by simp [Ne.symm hj]
    rw [if_neg hj, hlast, Option.map_none, Option.or_none]

def replace (m : NamedMap κ ν) (k : κ) (i : Nat) (v : ν) (h : m.index k = some i) :
    NamedMap κ ν where
  entries := m.entries.set i (k, v)
  index := m.index
  index_eq := by
    rw [map_fst_set (m.index_eq k ▸ h)]
    exact m.index_eq

def push (m : NamedMap κ ν) (k : κ) (v : ν) (h : m.index k = none) : NamedMap κ ν where
  entries := m.entries ++ [(k, v)]
  index j := if j = k then some m.entries.length else m.index j
  index_eq j := by
    rw [List.map_append, List.map_singleton, idxOf?_concat (m.index_eq k ▸ h), List.length_map,
      m.index_eq]

/-- Puts `v` under `k`: in place of the value that is there, or as a new last entry. -/
def insert (m : NamedMap κ ν) (k : κ) (v : ν) : NamedMap κ ν :=
  match h : m.index k with
  | some i => m.replace k i v h
  | none => m.push k v h

def exchange (m : NamedMap κ ν) (k : κ) (v : ν) : Option ν × NamedMap κ ν :=
  (m.get? k, m.insert k v)

def ofList (pairs : List (κ × ν)) : NamedMap κ ν :=
  pairs.foldl (fun m p => m.insert p.1 p.2) empty

/-- The values that `key` names, in order of the first value with each name; of several values with
one name, the last. -/
def byKey (key : ν → κ) (vs : List ν) : NamedMap κ ν :=
  ofList (vs.map fun v => (key v, v))

theorem keys_empty : (empty : NamedMap κ ν).keys = [] := rfl

theorem get?_empty (k : κ) : (empty : NamedMap κ ν).get? k = none := rfl

end NamedMap

end InfoModel

import InfoModel.Number.Binary64

/-!
# Document trees

A document is a tree of truth values, numbers, texts, lists and records. A number is either an
integer of at most 64 bits, kept exactly, or a binary floating point number. A record keeps its
entries in written order.
-/

namespace InfoModel

inductive Tree where
  | null
  | bool (value : Bool)
  | integer (value : Int)
  | real (value : Number.Binary64)
  | text (value : String)
  | list (items : List Tree)
  | record (entries : List (String × Tree))
deriving Repr

namespace Tree

/-- The value of the first entry with the key `key`. -/
def valueOf? (entries : List (String × Tree)) (key : String) : Option Tree :=
  (entries.find? fun e => e.1 == key).map (·.2)

/-- The value under `key`, if the tree is a record that has the key. -/
def get? (t : Tree) (key : String) : Option Tree :=
  match t with
  | .record entries => valueOf? entries key
  | _ => none

def text? : Tree → Option String
  | .text s => some s
  | _ => none

def bool? : Tree → Option Bool
  | .bool b => some b
  | _ => none

def integer? : Tree → Option Int
  | .integer n => some n
  | _ => none

def list? : Tree → Option (List Tree)
  | .list items => some items
  | _ => none

def isRecord : Tree → Bool
  | .record _ => true
  | _ => false

theorem sizeOf_valueOf?_lt {entries : List (String × Tree)} {key : String} {t : Tree}
    (h : valueOf? entries key = some t) : sizeOf t < sizeOf (Tree.record entries) := by
  simp only [valueOf?, Option.map_eq_some_iff] at h
  obtain ⟨e, he, rfl⟩ := h
  have hm := List.mem_of_find?_eq_some he
  have hs := List.sizeOf_lt_of_mem hm
  have he2 : sizeOf e.2 < sizeOf e := by
    cases e
    simp only [Prod.mk.sizeOf_spec]
    omega
  simp only [Tree.record.sizeOf_spec]
  omega

theorem sizeOf_get?_lt {t u : Tree} {key : String} (h : t.get? key = some u) :
    sizeOf u < sizeOf t := by
  cases t with
  | record entries => exact sizeOf_valueOf?_lt h
  | _ => simp [get?] at h

theorem sizeOf_item_lt {items : List Tree} {t : Tree} (h : t ∈ items) :
    sizeOf t < sizeOf (Tree.list items) := by
  have hs := List.sizeOf_lt_of_mem h
  simp only [Tree.list.sizeOf_spec]
  omega

end Tree

end InfoModel

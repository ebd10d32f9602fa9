import InfoModel.Tree.Basic

/-!
# Reading the fields of a record

Declarations are read from records field by field. A field may be required, optional, or a list that
may be left out; an optional field may also be null. A scalar field takes a text, a number or a
truth value and keeps its text, so that `5` and `"5"` mean the same. Where a record repeats a key
its first value counts, and the record is not refused for it.
-/

namespace InfoModel.Tree
open InfoModel.Text

def field (t : Tree) (key : String) (read : Tree → Option α) : Option α :=
  (t.get? key).bind read

/-- What `read` makes of the value under a key that may be absent or null. -/
def optional (t : Tree) (key : String) (read : Tree → Option α) : Option (Option α) :=
  match t.get? key with
  | none | some .null => some none
  | some v => (read v).map some

/-- What `read` makes of the items of the list under a key that may be absent. -/
def items (t : Tree) (key : String) (read : Tree → Option α) : Option (List α) :=
  match t.get? key with
  | none => some []
  | some (.list ts) => ts.mapM read
  | some _ => none

def optionalText (t : Tree) (key : String) : Option (Option String) := t.optional key text?

/-- The text of a scalar. -/
def scalarText? : Tree → Option String
  | .text s => some s
  | .integer n => some (intText n)
  | .real x => some x.text
  | .bool b => some (boolText b)
  | _ => none

def optionalScalar (t : Tree) (key : String) : Option (Option String) := t.optional key scalarText?

/-- The count, if the tree is an integer below two to the 32nd. -/
def count? : Tree → Option UInt32
  | .integer n => if 0 ≤ n ∧ n < UInt32.size then some (UInt32.ofNat n.toNat) else none
  | _ => none

/-- The word of a fixed vocabulary: a text, or a record whose only key is the word, with null under
it. -/
def word? : Tree → Option String
  | .text s => some s
  | .record [(s, .null)] => some s
  | _ => none

def meaning? (vocabulary : List (String × α)) (t : Tree) : Option α :=
  t.word?.bind fun word => (vocabulary.find? fun e => e.1 == word).map (·.2)

def textPair? : Tree → Option (String × String)
  | .list [.text a, .text b] => some (a, b)
  | _ => none

theorem scalarText?_integer (n : Int) :
    scalarText? (.integer n) = scalarText? (.text (intText n)) := rfl

theorem scalarText?_bool (b : Bool) :
    scalarText? (.bool b) = scalarText? (.text (boolText b)) := rfl

end InfoModel.Tree

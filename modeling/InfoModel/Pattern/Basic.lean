import InfoModel.Pattern.Match
import InfoModel.Pattern.Parser
import InfoModel.Pattern.Preference
import InfoModel.Text.Quoted

/-!
# Patterns for whole values

A pattern of a constraint is placed in a group between the tests for the start and the end of a
text, and is then read as a whole. A value matches if the pattern so enclosed matches in it. The key
of a value is what the first group holds in the preferred match, or that match itself if the group
took no part in it.
-/

namespace InfoModel

/-- A pattern as written, and the tree of the enclosed pattern. -/
structure Pattern where
  source : String
  tree : Pattern.Node
deriving Repr, DecidableEq

namespace Pattern
open InfoModel.Text

/-- The pattern in a group, between the tests for the start and the end of a text. -/
def enclosed (source : String) : List Char :=
  "^(?:".toList ++ source.toList ++ ")$".toList

/-- The pattern written, if it can be read once it is enclosed. -/
def compile (source : String) : Option Pattern :=
  (readNode? (enclosed source)).map fun tree => ⟨source, tree⟩

def isMatch (p : Pattern) (value : String) : Bool := occurs value.toList.toArray p.tree

def slice (text : Array Char) (start stop : Nat) : String :=
  String.ofList ((text.toList.drop start).take (stop - start))

/-- The key that a match selects: what its first group holds, or else the match itself. -/
def keyOf (text : Array Char) (found : Found) : String :=
  let (start, stop) := found.key.getD (found.start, found.stop)
  slice text start stop

def extract (p : Pattern) (value : String) : Option String :=
  let text := value.toList.toArray
  if p.isMatch value then
    some (((preferred? text p.tree).map (keyOf text)).getD value)
  else none

def detail (p : Pattern) : String := "CompiledPattern(" ++ quoted p.source ++ ")"

theorem source_of_compile {source : String} {p : Pattern} (h : compile source = some p) :
    p.source = source := by
  simp only [compile, Option.map_eq_some_iff] at h
  obtain ⟨tree, -, rfl⟩ := h
  rfl

theorem isSome_extract (p : Pattern) (value : String) :
    (p.extract value).isSome = p.isMatch value := by
  by_cases h : p.isMatch value <;> simp [extract, h]

end Pattern

end InfoModel

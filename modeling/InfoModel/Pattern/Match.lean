import InfoModel.Pattern.Node

/-!
# What a pattern matches

A position of a text is the number of characters before it. `ends text node starts` holds the
positions at which a match may end that begins at one of the positions `starts`. Sets of positions
are lists without repetition. A repetition without an upper bound adds positions until there is none
left to add, which happens after as many rounds as there are positions.
-/

namespace InfoModel.Pattern
open InfoModel.Unicode

/-- The members of `found` that are not in `known`. -/
def fresh (known found : List Nat) : List Nat := found.filter fun i => !known.contains i

/-- The members of either list; those of the first come first. -/
def merged (known found : List Nat) : List Nat := known ++ fresh known found

def inRounds (advance : List Nat → List Nat) : (count : Nat) → List Nat → List Nat
  | 0, starts => starts
  | count + 1, starts =>
    match starts with
    | [] => []
    | starts => inRounds advance count (advance starts)

/-- What `advance` reaches from `known` in at most `count` rounds, when only `recent` of the known
positions have not been advanced yet. -/
def withinRounds (advance : List Nat → List Nat) : (count : Nat) → (known recent : List Nat) →
    List Nat
  | 0, known, _ => known
  | _, known, [] => known
  | count + 1, known, recent =>
    let found := fresh known (advance recent)
    withinRounds advance count (known ++ found) found

/-- The positions at which a match that begins at one of `starts` may end. -/
def ends (text : Array Char) : Node → (starts : List Nat) → List Nat
  | .empty, starts => starts
  | .chars set, starts =>
    starts.filterMap fun i => if text[i]?.any set.contains then some (i + 1) else none
  | .look test, starts =>
    starts.filter fun i => test.holds (if i = 0 then none else text[i - 1]?) text[i]?
  | .group _ body, starts => ends text body starts
  | .seq first second, starts => ends text second (ends text first starts)
  | .alt first second, starts => merged (ends text first starts) (ends text second starts)
  | .times min max _ body, starts =>
    let least := inRounds (ends text body) min starts
    let more := match max with
      | some n => n - min
      | none => text.size + 1
    withinRounds (ends text body) more least least

def occurs (text : Array Char) (node : Node) : Bool :=
  !(ends text node (List.range (text.size + 1))).isEmpty

end InfoModel.Pattern

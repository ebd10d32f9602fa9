import InfoModel.Unicode.Property

/-!
# Patterns as trees

A pattern is read into a tree of characters, tests of the position, groups, sequences, alternatives
and repetitions. Of two ways to match, the tree says which is preferred: the first alternative comes
before the second, and a greedy repetition goes on before it stops.
-/

namespace InfoModel.Pattern
open InfoModel.Unicode

def wordChars : CodeSet :=
  CodeSet.unionAll [property "alphabetic", categoriesOf ["mn", "mc", "me", "nd", "pc"],
    property "joincontrol"]

def asciiWordChars : CodeSet :=
  CodeSet.unionAll [.range 'a' 'z', .range 'A' 'Z', .range '0' '9', .singleton '_']

/-- A test of a position between two characters. -/
inductive Look where
  | textStart
  | textEnd
  | lineStart
  | lineEnd
  | crlfLineStart
  | crlfLineEnd
  | wordEdge (ascii : Bool)
  | noWordEdge (ascii : Bool)
  | wordStart (ascii : Bool)
  | wordEnd (ascii : Bool)
  | wordStartHalf (ascii : Bool)
  | wordEndHalf (ascii : Bool)
deriving Repr, DecidableEq

def isWordChar (ascii : Bool) (c : Option Char) : Bool :=
  c.any fun c => if c.toNat < 128 then asciiWordChars.contains c else !ascii && wordChars.contains c

/-- Whether the test holds between the characters `before` and `after`, either of which is missing
at an end of the text. -/
def Look.holds (before after : Option Char) : Look → Bool
  | .textStart => before.isNone
  | .textEnd => after.isNone
  | .lineStart => before.isNone || before == some '\n'
  | .lineEnd => after.isNone || after == some '\n'
  | .crlfLineStart =>
    before.isNone || before == some '\n' || (before == some '\x0d' && after != some '\n')
  | .crlfLineEnd =>
    after.isNone || after == some '\x0d' || (after == some '\n' && before != some '\x0d')
  | .wordEdge ascii => isWordChar ascii before != isWordChar ascii after
  | .noWordEdge ascii => isWordChar ascii before == isWordChar ascii after
  | .wordStart ascii => !isWordChar ascii before && isWordChar ascii after
  | .wordEnd ascii => isWordChar ascii before && !isWordChar ascii after
  | .wordStartHalf ascii => !isWordChar ascii before
  | .wordEndHalf ascii => !isWordChar ascii after

inductive Node where
  | empty
  | chars (set : CodeSet)
  | look (test : Look)
  | group (index : Nat) (body : Node)
  | seq (first second : Node)
  | alt (first second : Node)
  | times (min : Nat) (max : Option Nat) (greedy : Bool) (body : Node)
deriving Repr, DecidableEq

namespace Node

def sequence : List Node → Node
  | [] => .empty
  | [x] => x
  | x :: y :: rest => .seq x (sequence (y :: rest))

/-- Several alternatives, the preferred ones first. -/
def choice : List Node → Node
  | [] => .chars CodeSet.empty
  | [x] => x
  | x :: y :: rest => .alt x (choice (y :: rest))

/-- Whether every match takes up at least one character. -/
def consumes : Node → Bool
  | .empty | .look _ => false
  | .chars _ => true
  | .group _ body => body.consumes
  | .seq first second => first.consumes || second.consumes
  | .alt first second => first.consumes && second.consumes
  | .times min _ _ body => 0 < min && body.consumes

/-- The estimated bytes that a set of characters takes up when a pattern is prepared. -/
def setCost (set : CodeSet) : Nat :=
  if set.isAscii then 32 + 8 * set.intervals.length else 32 + 60 * set.intervals.length

/-- The estimated bytes that a tree takes up when it is prepared: a repetition is written out as
often as it is counted. -/
def cost : Node → Nat
  | .empty => 32
  | .look _ => 32
  | .chars set => setCost set
  | .group _ body => 64 + body.cost
  | .seq first second => first.cost + second.cost
  | .alt first second => 32 + first.cost + second.cost
  | .times min max _ body => (32 + body.cost) * Nat.max 1 (max.getD min)

end Node

end InfoModel.Pattern

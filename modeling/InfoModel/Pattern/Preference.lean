import InfoModel.Pattern.Node

/-!
# The preferred match

Where a pattern matches in several ways, one match is preferred: the one that begins first, and of
those the one that takes the preferred way at every choice. A pattern is laid out as a program of
steps, and the program is explored depth first, the preferred way ahead of the other; a step that
was tried at a position is not tried there again, so that repetitions of nothing come to an end.
-/

namespace InfoModel.Pattern
open InfoModel.Unicode

/-- A step of a program, with the places of the steps that follow it. -/
inductive Step where
  | chars (set : CodeSet) (next : Nat)
  | look (test : Look) (next : Nat)
  | fork (preferred other : Nat)
  | openKey (next : Nat)
  | closeKey (next : Nat)
  | accept
deriving Repr, DecidableEq

abbrev Program := Array Step

/-- A fork that goes on with `onward` if it is greedy and otherwise prefers to stop at `next`. -/
def forkOf (greedy : Bool) (onward next : Nat) : Step :=
  if greedy then .fork onward next else .fork next onward

def layCopies (lay : Nat → Program → Nat × Program) : (count next : Nat) → Program → Nat × Program
  | 0, next, p => (next, p)
  | count + 1, next, p =>
    let (start, p) := lay next p
    layCopies lay count start p

def layOptional (lay : Nat → Program → Nat × Program) (greedy : Bool) (next : Nat) :
    (count start : Nat) → Program → Nat × Program
  | 0, start, p => (start, p)
  | count + 1, start, p =>
    let (onward, p) := lay start p
    layOptional lay greedy next count p.size (p.push (forkOf greedy onward next))

/-- Lays out a part that is repeated once or more before the step at `next`; also gives the place of
the fork after the part. -/
def layRepeated (lay : Nat → Program → Nat × Program) (greedy : Bool) (next : Nat) (p : Program) :
    Nat × Nat × Program :=
  let place := p.size
  let (start, p) := lay place (p.push .accept)
  (start, place, p.setIfInBounds place (forkOf greedy start next))

/-- Lays out a tree before the step at `next`. The key is the first group. -/
def lay : Node → (next : Nat) → Program → Nat × Program
  | .empty, next, p => (next, p)
  | .chars set, next, p => (p.size, p.push (.chars set next))
  | .look test, next, p => (p.size, p.push (.look test next))
  | .group index body, next, p =>
    if index = 1 then
      let (start, p) := lay body p.size (p.push (.closeKey next))
      (p.size, p.push (.openKey start))
    else lay body next p
  | .seq first second, next, p =>
    let (middle, p) := lay second next p
    lay first middle p
  | .alt first second, next, p =>
    let (other, p) := lay second next p
    let (preferred, p) := lay first next p
    (p.size, p.push (.fork preferred other))
  | .times min max greedy body, next, p =>
    match max with
    | some n =>
      let (start, p) := layOptional (lay body) greedy next (n - min) next p
      layCopies (lay body) min start p
    | none =>
      let (start, place, p) := layRepeated (lay body) greedy next p
      if 0 < min then layCopies (lay body) (min - 1) start p
      else if body.consumes then (place, p)
      else (p.size, p.push (forkOf greedy start next))

/-- A match: where it begins and ends, and where the key lies if it took part. -/
structure Found where
  start : Nat
  stop : Nat
  key : Option (Nat × Nat)
deriving Repr, DecidableEq

/-- A way that is still to be explored: the next step and the position, where the match begins,
where the key was opened last, and where it lay last. -/
structure Way where
  step : Nat
  position : Nat
  start : Nat
  opened : Nat
  key : Option (Nat × Nat)

/-- The ways that go on from a step, the preferred one first; or the match that it completes. -/
def Way.go (text : Array Char) (w : Way) : Step → Found ⊕ List Way
  | .chars set next =>
    .inr (if text[w.position]?.any set.contains then
      [{ w with step := next, position := w.position + 1 }] else [])
  | .look test next =>
    let before := if w.position = 0 then none else text[w.position - 1]?
    .inr (if test.holds before text[w.position]? then [{ w with step := next }] else [])
  | .fork preferred other => .inr [{ w with step := preferred }, { w with step := other }]
  | .openKey next => .inr [{ w with step := next, opened := w.position }]
  | .closeKey next => .inr [{ w with step := next, key := some (w.opened, w.position) }]
  | .accept => .inl ⟨w.start, w.position, w.key⟩

/-- Explores ways in turn; `tried` tells for each step and position whether it has been tried. -/
def explore (text : Array Char) (p : Program) : (fuel : Nat) → List Way → (tried : Array Bool) →
    Option Found
  | 0, _, _ => none
  | _, [], _ => none
  | fuel + 1, w :: ways, tried =>
    let mark := w.step * (text.size + 1) + w.position
    if tried.getD mark true then explore text p fuel ways tried
    else match p[w.step]? with
      | none => explore text p fuel ways tried
      | some s =>
        match w.go text s with
        | .inl found => some found
        | .inr onward => explore text p fuel (onward ++ ways) (tried.setIfInBounds mark true)

def preferred? (text : Array Char) (node : Node) : Option Found :=
  let (start, p) := lay node 0 #[.accept]
  let positions := text.size + 1
  let ways := (List.range positions).map fun i => (⟨start, i, i, i, none⟩ : Way)
  explore text p (2 * p.size * positions + positions + 1) ways
    (Array.replicate (p.size * positions) false)

end InfoModel.Pattern

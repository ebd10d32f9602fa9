import InfoModel.Fault
import InfoModel.Text.Trim

/-!
# Occurrence bounds

An instance occurs at least `min` times and at most as often as its upper bound admits. Bounds are
written as a run of digits below two to the 32nd, or as the word `unbounded` for an upper bound that
admits every count.
-/

namespace InfoModel
open InfoModel.Text

/-- Reads a run of digits as a count: nothing if it is none, a fault if it is too large. -/
def readCount (cs : List Char) : Except OccurrenceFault UInt32 :=
  match natOfDigits? cs with
  | none => .error .notBound
  | some n => if n < UInt32.size then .ok (UInt32.ofNat n) else .error .tooLarge

def countText (n : UInt32) : String := natText n.toNat

inductive MaxOccurs where
  | bounded (n : UInt32)
  | unbounded
deriving Repr, DecidableEq

namespace MaxOccurs

/-- The bound as one number: minus one for no bound, and no more than two to the 31st less one. -/
def flat : MaxOccurs → Int
  | .bounded n => min (n.toNat : Int) 2147483647
  | .unbounded => -1

def admits : MaxOccurs → UInt32 → Bool
  | .bounded n, count => count ≤ n
  | .unbounded, _ => true

def text : MaxOccurs → String
  | .bounded n => countText n
  | .unbounded => "unbounded"

def parse (s : String) : Except Fault MaxOccurs :=
  let cs := trimChars s.toList
  if cs = "unbounded".toList then .ok .unbounded
  else match readCount cs with
    | .ok n => .ok (.bounded n)
    | .error cause => .error (.invalidOccurrence (String.ofList cs) cause)

end MaxOccurs

structure Occurrence where
  min : UInt32
  max : MaxOccurs
deriving Repr, DecidableEq

namespace Occurrence

/-- The bounds `min` and `max`, if `max` admits one occurrence and is not below `min`. -/
def make (min : UInt32) (max : MaxOccurs) : Except Fault Occurrence :=
  match max with
  | .unbounded => .ok ⟨min, max⟩
  | .bounded n =>
    if n = 0 then .error (.invalidOccurrence (countText n) .zeroMax)
    else if n < min then
      .error (.invalidOccurrence (countText min ++ ".." ++ countText n) .minExceedsMax)
    else .ok ⟨min, max⟩

/-- The bounds as written: `min` is zero and `max` one where they are left out. -/
def parse (min : Option UInt32) (max : Option String) : Except Fault Occurrence :=
  match max with
  | none => make (min.getD 0) (.bounded 1)
  | some s =>
    match MaxOccurs.parse s with
    | .ok m => make (min.getD 0) m
    | .error e => .error e

def isRepeatable (o : Occurrence) : Bool :=
  match o.max with
  | .bounded n => 1 < n
  | .unbounded => true

end Occurrence

end InfoModel

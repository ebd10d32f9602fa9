import InfoModel.Datatype.Basic
import InfoModel.Name.QName
import InfoModel.Text.Trim
import InfoModel.Uri.Parser
import InfoModel.Value.Base64
import InfoModel.Value.Basic
import InfoModel.Value.Duration
import InfoModel.Value.Hostname

/-!
# Reading values

Each datatype reads a text as a value or refuses it. Blanks around a value do not count for the
standard ones, except for those of free text, which keep the text as written. A refusal quotes the
text as written, or without the blanks around it, or only the date within it, depending on the
datatype.
-/

namespace InfoModel.Datatype
open InfoModel.Text InfoModel.Unicode

def refuse (d : Datatype) (value : String) (cause : ValueFault) : Except Fault α :=
  .error (.invalidValue d.name value cause)

def orRefuse (d : Datatype) (value : String) (cause : ValueFault) (read : Option α) :
    Except Fault α :=
  match read with
  | some v => .ok v
  | none => d.refuse value cause

/-- Whether a text is a token: not empty, no tab or line end in it, and no two spaces together. -/
def isToken (cs : List Char) : Bool :=
  !cs.isEmpty && !cs.any (fun c => c = '\t' || c = '\n' || c = '\x0d') && singleSpaced cs
where
  singleSpaced : List Char → Bool
    | ' ' :: ' ' :: _ => false
    | _ :: rest => singleSpaced rest
    | [] => true

def readText (valid : List Char → Bool) (cs : List Char) : Option String :=
  if valid cs then some (String.ofList cs) else none

section
variable {d : Datatype} {value : String} {cause : ValueFault} {valid : List Char → Bool}
  {cs : List Char} {f : String → Value}

theorem map_readText_eq_ok_iff {v : Value} :
    (d.orRefuse value cause (readText valid cs)).map f = .ok v ↔
      valid cs = true ∧ v = f (String.ofList cs) := by
  unfold readText
  by_cases h : valid cs = true
  · rw [if_pos h]
    show Except.ok (f (String.ofList cs)) = Except.ok v ↔ _
    rw [Except.ok.injEq, eq_comm]
    exact (and_iff_right h).symm
  · rw [if_neg h]
    constructor
    · intro he
      cases he
    · exact fun hv => absurd hv.1 h

theorem map_readText_eq_error_iff {e : Fault} :
    (d.orRefuse value cause (readText valid cs)).map f = .error e ↔
      ¬ valid cs = true ∧ e = .invalidValue d.name value cause := by
  unfold readText
  by_cases h : valid cs = true
  · rw [if_pos h]
    constructor
    · intro he
      cases he
    · exact fun hv => absurd h hv.1
  · rw [if_neg h]
    show Except.error (Fault.invalidValue d.name value cause) = Except.error e ↔ _
    rw [Except.error.injEq, eq_comm]
    exact (and_iff_right h).symm

end

def readBoolean (cs : List Char) : Option Bool :=
  if cs = "true".toList ∨ cs = "1".toList then some true
  else if cs = "false".toList ∨ cs = "0".toList then some false
  else none

def readInteger (d : Datatype) (cs : List Char) : Except Fault Int :=
  d.orRefuse (String.ofList cs) .notInteger (readInt? cs)

/-- The integer written, if it is at least `least`; otherwise the refusal of `lexical`. -/
def readBounded (d : Datatype) (least : Int) (cause : ValueFault) (lexical : String)
    (cs : List Char) : Except Fault Int :=
  match d.readInteger cs with
  | .error e => .error e
  | .ok n => if least ≤ n then .ok n else d.refuse lexical cause

/-- The decimal written; exponents and digit separators are no part of it. -/
def readDecimal (d : Datatype) (cs : List Char) : Except Fault Decimal :=
  if cs.any fun c => c = 'e' || c = 'E' || c = '_' then d.refuse (String.ofList cs) .notDecimal
  else d.orRefuse (String.ofList cs) .malformed (Decimal.parse cs)

def readDate (d : Datatype) (cs : List Char) : Except Fault Date :=
  d.orRefuse (String.ofList cs) .malformed (Date.parse cs)

/-- A date and the offset that must follow it, kept as written. -/
def readDateWithOffset (d : Datatype) (lexical : String) (cs : List Char) : Except Fault String :=
  match splitOffset cs with
  | (_, none) => d.refuse lexical .noTimezone
  | (front, some _) =>
    match d.readDate front with
    | .ok _ => .ok (String.ofList cs)
    | .error e => .error e

/-- An instant, or a date and time without offset. -/
def readDateTime (cs : List Char) : Option Value :=
  match Instant.parse cs with
  | some t => some (.instant t)
  | none => (DateTime.parse cs).map .dateTime

/-- The base against which references are checked. -/
def referenceBase : Uri := ⟨"http", some ⟨none, "base.invalid", none⟩, ['/'], none, none⟩

def readReference (d : Datatype) (lexical : String) (cs : List Char) : Except Fault String :=
  if cs.any isBlank then d.refuse lexical .blankInReference
  else
    let written := String.ofList cs
    d.orRefuse lexical .malformed ((referenceBase.join written).map fun _ => written)

/-- The value that a text denotes under a datatype. -/
def parse (d : Datatype) (lexical : String) : Except Fault Value :=
  let cs := trimChars lexical.toList
  match d with
  | .string | .markupLine | .markupMultiline => .ok (.text lexical)
  | .token => (d.orRefuse lexical .notToken (readText isToken cs)).map .text
  | .ncName => (d.orRefuse lexical .notName (readText isNcName cs)).map .text
  | .base64 =>
    (d.orRefuse lexical .malformed (Base64.decode (cs.filter fun c => !isBlank c))).map .bytes
  | .boolean => (d.orRefuse lexical .notBoolean (readBoolean cs)).map .boolean
  | .integer => (d.readInteger cs).map .integer
  | .nonNegativeInteger => (d.readBounded 0 .belowZero lexical cs).map .integer
  | .positiveInteger => (d.readBounded 1 .belowOne lexical cs).map .integer
  | .decimal => (d.readDecimal cs).map .decimal
  | .date => (d.readDate (splitOffset cs).1).map .date
  | .dateWithTimezone => (d.readDateWithOffset lexical cs).map .dateWithOffset
  | .dateTime => d.orRefuse lexical .malformed (readDateTime cs)
  | .dateTimeWithTimezone => (d.orRefuse lexical .malformed (Instant.parse cs)).map .instant
  | .dayTimeDuration =>
    (d.orRefuse lexical .notDayTimeDuration
      (readText (Duration.isDuration Duration.dayTime) cs)).map .duration
  | .yearMonthDuration =>
    (d.orRefuse lexical .notYearMonthDuration
      (readText (Duration.isDuration Duration.yearMonth) cs)).map .duration
  | .emailAddress =>
    (d.orRefuse lexical .notEmailAddress (readText isMailAddress cs)).map .text
  | .hostname => (d.orRefuse lexical .notHostname (readText isHostname cs)).map .text
  | .ipV4Address => (d.orRefuse lexical .notIpv4 (Ipv4.parse cs)).map .ipv4
  | .ipV6Address => (d.orRefuse lexical .notIpv6 (Ipv6.parse cs)).map .ipv6
  | .uri => (d.orRefuse lexical .malformed (Uri.parse (String.ofList cs))).map .uri
  | .uriReference => (d.readReference lexical cs).map .uriReference
  | .uuid => (d.orRefuse lexical .malformed (Uuid.parse cs)).map .uuid
  | .custom a => a.parse lexical

end InfoModel.Datatype

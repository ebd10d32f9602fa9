import InfoModel.Text.Quoted

/-!
# Faults of basic values

Names, occurrence bounds, typed values, addresses and settings are refused for a stated cause. A
fault holds the offending text and the cause; its wording is given once, by `Fault.message`.
-/

namespace InfoModel
open InfoModel.Text

inductive NameFault where
  | empty
  | badStart
  | illegal (c : Char)
  | unterminated
  | nestedBrace
deriving Repr, DecidableEq

def NameFault.reason : NameFault → String
  | .empty => "name is empty"
  | .badStart => "must start with a letter or underscore"
  | .illegal c => "illegal character " ++ quotedLetter c
  | .unterminated => "unterminated URI-qualified name"
  | .nestedBrace => "nested brace in namespace URI"

inductive OccurrenceFault where
  | notBound
  | tooLarge
  | zeroMax
  | minExceedsMax
deriving Repr, DecidableEq

def OccurrenceFault.reason : OccurrenceFault → String
  | .notBound => "expected \"unbounded\" or a non-negative integer"
  | .tooLarge => "number too large to fit in target type"
  | .zeroMax => "max-occurs must be at least 1"
  | .minExceedsMax => "min-occurs exceeds max-occurs"

/-- Why a text is no value of its datatype. A text that breaks the syntax of an outside standard is
`malformed`, without detail. -/
inductive ValueFault where
  | notToken
  | notName
  | notBoolean
  | notInteger
  | belowZero
  | belowOne
  | notDecimal
  | noTimezone
  | notDayTimeDuration
  | notYearMonthDuration
  | notEmailAddress
  | notHostname
  | notIpv4
  | notIpv6
  | blankInReference
  | malformed
deriving Repr, DecidableEq

def ValueFault.reason : ValueFault → String
  | .notToken => "not a normalized token"
  | .notName => "not a non-colonized name"
  | .notBoolean => "expected true, false, 1, or 0"
  | .notInteger => "not an integer"
  | .belowZero => "must be >= 0"
  | .belowOne => "must be >= 1"
  | .notDecimal => "not a decimal"
  | .noTimezone => "timezone required"
  | .notDayTimeDuration => "not a day-time duration"
  | .notYearMonthDuration => "not a year-month duration"
  | .notEmailAddress => "not an email address"
  | .notHostname => "not a hostname"
  | .notIpv4 => "invalid IPv4 address syntax"
  | .notIpv6 => "invalid IPv6 address syntax"
  | .blankInReference => "whitespace in URI reference"
  | .malformed => "<library>"

/-- A refusal of a name, a datatype, a value, a bound, an address or a setting. -/
inductive Fault where
  | invalidName (name : String) (cause : NameFault)
  | unboundPrefix (head name : String)
  | unknownDatatype (name : String)
  | invalidValue (datatype value : String) (cause : ValueFault)
  | invalidOccurrence (value : String) (cause : OccurrenceFault)
  | invalidUri (uri : String)
  | invalidSetting (name value : String)
deriving Repr, DecidableEq

def Fault.message : Fault → String
  | .invalidName name cause => "invalid name " ++ quoted name ++ ": " ++ cause.reason
  | .unboundPrefix head name =>
    "namespace prefix " ++ quoted head ++ " is not bound (in " ++ quoted name ++ ")"
  | .unknownDatatype name => "unrecognized data type: " ++ name
  | .invalidValue datatype value cause =>
    "invalid " ++ datatype ++ " value " ++ quoted value ++ ": " ++ cause.reason
  | .invalidOccurrence value cause =>
    "invalid occurrence " ++ quoted value ++ ": " ++ cause.reason
  | .invalidUri uri => "invalid URI " ++ quoted uri ++ ": <library>"
  | .invalidSetting name value =>
    "invalid value " ++ quoted value ++ " for " ++ name

end InfoModel

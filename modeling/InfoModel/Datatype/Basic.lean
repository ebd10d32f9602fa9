import InfoModel.Fault
import InfoModel.Value.Basic

/-!
# Datatypes

The standard datatypes, the names they are declared by, and the older names that still stand for
them. A program may bring along datatypes of its own.
-/

namespace InfoModel

/-- A datatype that is not a standard one: its name, and how it reads a text. -/
structure Adapter where
  name : String
  parse : String → Except Fault Value

inductive Datatype where
  | string
  | token
  | base64
  | boolean
  | date
  | dateWithTimezone
  | dateTime
  | dateTimeWithTimezone
  | dayTimeDuration
  | yearMonthDuration
  | decimal
  | integer
  | nonNegativeInteger
  | positiveInteger
  | emailAddress
  | hostname
  | ipV4Address
  | ipV6Address
  | uri
  | uriReference
  | uuid
  | markupLine
  | markupMultiline
  | ncName
  | custom (adapter : Adapter)

namespace Datatype

def all : List Datatype :=
  [.string, .token, .base64, .boolean, .date, .dateWithTimezone, .dateTime, .dateTimeWithTimezone,
    .dayTimeDuration, .yearMonthDuration, .decimal, .integer, .nonNegativeInteger,
    .positiveInteger, .emailAddress, .hostname, .ipV4Address, .ipV6Address, .uri, .uriReference,
    .uuid, .markupLine, .markupMultiline, .ncName]

def name : Datatype → String
  | .string => "string"
  | .token => "token"
  | .base64 => "base64"
  | .boolean => "boolean"
  | .date => "date"
  | .dateWithTimezone => "date-with-timezone"
  | .dateTime => "date-time"
  | .dateTimeWithTimezone => "date-time-with-timezone"
  | .dayTimeDuration => "day-time-duration"
  | .yearMonthDuration => "year-month-duration"
  | .decimal => "decimal"
  | .integer => "integer"
  | .nonNegativeInteger => "non-negative-integer"
  | .positiveInteger => "positive-integer"
  | .emailAddress => "email-address"
  | .hostname => "hostname"
  | .ipV4Address => "ip-v4-address"
  | .ipV6Address => "ip-v6-address"
  | .uri => "uri"
  | .uriReference => "uri-reference"
  | .uuid => "uuid"
  | .markupLine => "markup-line"
  | .markupMultiline => "markup-multiline"
  | .ncName => "ncname"
  | .custom a => a.name

/-- Older names of a standard datatype. -/
def aliases : Datatype → List String
  | .dateTime => ["dateTime"]
  | .dateTimeWithTimezone => ["dateTime-with-timezone"]
  | .emailAddress => ["email"]
  | .nonNegativeInteger => ["nonNegativeInteger"]
  | .positiveInteger => ["positiveInteger"]
  | .base64 => ["base64Binary"]
  | _ => []

def names (d : Datatype) : List String := d.name :: d.aliases

end Datatype

end InfoModel

import InfoModel.Event
import InfoModel.Occurrence
import InfoModel.Property
import InfoModel.Source
import InfoModel.Tree.Basic
import InfoModel.Value.Base64
import InfoModel.Value.Basic

/-!
# Reports of basic values

A report shows a value of the library as a document tree, so that it can be written out and
compared. Names, texts of sources and numbers too large for a document are shown as texts.
-/

namespace InfoModel
open InfoModel.Text

namespace Tree

def nat (n : Nat) : Tree := .integer n

def option (shown : α → Tree) : Option α → Tree
  | some a => shown a
  | none => .null

def optionText (s : Option String) : Tree := option .text s

def texts (ss : List String) : Tree := .list (ss.map .text)

end Tree

def QName.report (q : QName) : Tree := .text q.text

/-- The bounds of an occurrence, the upper one also as one number. -/
def Occurrence.report (o : Occurrence) : Tree :=
  .record [("min", .nat o.min.toNat), ("max", .text o.max.text), ("max_i32", .integer o.max.flat),
    ("repeatable", .bool o.isRepeatable)]

def Properties.report (ps : Properties) : Tree :=
  .list (ps.groups.entries.map fun (key, values) =>
    .list [.text key.space, .text key.name, .texts values])

def Bindings.report (b : Bindings) : Tree :=
  .list (b.entries.map fun (head, uri) => .texts [head, uri])

def Source.report (s : Source) : Tree := .text s.text

def Source.detailReport (s : Source) : Tree :=
  .record [("display", .text s.text), ("short_name", .text s.shortName),
    ("location", .optionText (s.location.map Uri.text)),
    ("base_uri", .optionText (s.context.baseUri.map Uri.text)),
    ("default_namespace", .optionText s.context.defaultSpace),
    ("bindings", s.context.bindings.report)]

def Date.parts (d : Date) : List Tree := [.integer d.year, .nat d.month, .nat d.day]

def DateTime.report (t : DateTime) : Tree :=
  .list (t.date.parts ++
    [.nat t.time.hour, .nat t.time.minute, .nat t.time.second, .nat t.time.nano])

def Value.kind : Value → String
  | .text _ => "string"
  | .boolean _ => "boolean"
  | .integer _ => "integer"
  | .decimal _ => "decimal"
  | .date _ => "date"
  | .dateWithOffset _ => "date-with-timezone"
  | .dateTime _ => "date-time"
  | .instant _ => "date-time-with-timezone"
  | .duration _ => "duration"
  | .uri _ => "uri"
  | .uriReference _ => "uri-reference"
  | .uuid _ => "uuid"
  | .ipv4 _ => "ipv4"
  | .ipv6 _ => "ipv6"
  | .bytes _ => "base64"

def Value.content : Value → Tree
  | .text s | .dateWithOffset s | .duration s | .uriReference s => .text s
  | .boolean b => .bool b
  | .integer n => .text (intText n)
  | .decimal d => .list [.text (intText d.unscaled), .nat d.scale]
  | .date d => .list d.parts
  | .dateTime t => t.report
  | .instant t => .list [t.clock.report, .integer t.offset]
  | .uri u => .text u.text
  | .uuid u => .text u.text
  | .ipv4 a => .text a.text
  | .ipv6 a => .text a.text
  | .bytes bs => .text (Base64.hexForm bs)

def Value.report (v : Value) : Tree := .list [.text v.kind, v.content]

def Event.report (e : Event) : Tree :=
  .list [.text e.severity.text, .text e.message,
    .record (e.fields.map fun (key, value) => (key, .text value))]

end InfoModel

import InfoModel.Uri.Basic
import InfoModel.Value.Address
import InfoModel.Value.Clock
import InfoModel.Value.Decimal
import InfoModel.Value.Uuid

/-!
# Values

A value is what a written text denotes under a datatype. Durations, references and dates with an
offset are checked when they are read and kept as written.
-/

namespace InfoModel

inductive Value where
  | text (s : String)
  | boolean (b : Bool)
  | integer (n : Int)
  | decimal (d : Decimal)
  | date (d : Date)
  | dateWithOffset (s : String)
  | dateTime (t : DateTime)
  | instant (t : Instant)
  | duration (s : String)
  | uri (u : Uri)
  | uriReference (s : String)
  | uuid (u : Uuid)
  | ipv4 (a : Ipv4)
  | ipv6 (a : Ipv6)
  | bytes (bs : List UInt8)
deriving Repr, DecidableEq

end InfoModel

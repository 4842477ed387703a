import KeyValueClient.Decimal.Integer
import KeyValueClient.Marker

/-!
# Lines and bulk values

Requests and replies are built from two forms: a line behind its marker, and a bulk
value behind its length.
-/

namespace KeyValueClient.Wire

/-- A line: its marker, its body and its terminator. -/
def line (marker : Marker) (body : Bytes) : Bytes :=
  marker.toByte :: body ++ Bytes.crlf

/-- A bulk value: its length on a line, then its bytes and a terminator. -/
def bulk (data : Bytes) : Bytes :=
  line .bulk (Decimal.ofInt data.length) ++ data ++ Bytes.crlf

end KeyValueClient.Wire

import TableQuery.Value

/-!
# Parameters for the server

The type and the content that a bound value is sent with. A null is sent without a type, so that the
server finds one. Moments count microseconds from the year 2000, toward which parts of a microsecond
are dropped.
-/

namespace TableQuery

/-- A bound value as it is sent. -/
inductive Parameter where
  /-- Null, of no type. -/
  | untyped
  /-- A truth value. -/
  | bool (b : Bool)
  /-- An integer. -/
  | integer (n : Int64)
  /-- A double. -/
  | float (x : Binary64)
  /-- A text. -/
  | text (s : String)
  /-- A moment, in microseconds since 2000. -/
  | timestamp (micros : Int)
  /-- A clock without zone, in microseconds since 2000. -/
  | localTimestamp (micros : Int)
  /-- A date. -/
  | date (d : Date)
  /-- A JSON document. -/
  | json (j : Json)
  deriving Inhabited, Repr

namespace Parameter

/-- What a clock showed at the beginning of the year 2000, in seconds since 1970. -/
def epochSeconds : Int := 946684800

/-- Microseconds from the year 2000 to a clock, parts of a microsecond dropped toward that year. -/
def microsOf (w : WallClock) : Int :=
  ((w.seconds - epochSeconds) * 1000000000 + w.nanos).tdiv 1000

/-- The parameter for a value. -/
def ofValue : Value → Parameter
  | .null => .untyped
  | .bool b => .bool b
  | .int n => .integer n
  | .float x => .float x
  | .text s => .text s
  | .timestamp i => .timestamp (microsOf i.utc)
  | .localTimestamp w => .localTimestamp (microsOf w)
  | .date d => .date d
  | .json j => .json j

/-- The name of the type that is declared. -/
def typeName : Parameter → String
  | .untyped => "UNSPECIFIED"
  | .bool _ => "BOOL"
  | .integer _ => "INT8"
  | .float _ => "FLOAT8"
  | .text _ => "TEXT"
  | .timestamp _ => "TIMESTAMPTZ"
  | .localTimestamp _ => "TIMESTAMP"
  | .date _ => "DATE"
  | .json _ => "JSONB"

/-- Microseconds since 1970 for microseconds since 2000. -/
def since1970 (micros : Int) : Int :=
  micros + epochSeconds * 1000000

/-- The content as a text, temporal contents counted from 1970; nothing for a null. -/
def content? : Parameter → Option String
  | .untyped => none
  | .bool b => some (if b then "true" else "false")
  | .integer n => some (Decimal.intText n.toInt)
  | .float x => some (Decimal.Layout.display.text x)
  | .text s => some s
  | .timestamp micros | .localTimestamp micros => some (Decimal.intText (since1970 micros))
  | .date d => some (Decimal.intText d.days)
  | .json j => some j.compact

end Parameter

end TableQuery

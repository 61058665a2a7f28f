import TableQuery.Calendar.WallClock
import TableQuery.Json.Printer

/-!
# Values

What is bound to a placeholder or found in a cell, and its forms: the JSON that callers get, the
JSON that a printed statement shows, and the text on display.
-/

namespace TableQuery

/-- A single value. -/
inductive Value where
  /-- No value. -/
  | null
  /-- A truth value. -/
  | bool (b : Bool)
  /-- A signed integer of 64 bits. -/
  | int (n : Int64)
  /-- A double. -/
  | float (x : Binary64)
  /-- A text. -/
  | text (s : String)
  /-- A moment. -/
  | timestamp (i : Instant)
  /-- A date and time of day without a zone. -/
  | localTimestamp (w : WallClock)
  /-- A date. -/
  | date (d : Date)
  /-- A JSON value. -/
  | json (j : Json)
  deriving Inhabited, Repr

namespace Value

/-- The value is null. A JSON null is a value. -/
def isNull : Value → Bool
  | .null => true
  | _ => false

/-- The integer fits a signed word of 64 bits. -/
def fitsInt64 (n : Int) : Bool :=
  -0x8000000000000000 ≤ n && n < 0x8000000000000000

/-- The value of a JSON value: arrays and objects stay JSON, and an integer that does not fit a
signed word becomes the nearest double. -/
def ofJson : Json → Value
  | .null => .null
  | .bool b => .bool b
  | .integer n => if fitsInt64 n then .int (Int64.ofInt n) else .float (Binary64.ofInt n)
  | .float x => .float x
  | .string s => .text s
  | .array items => .json (.array items)
  | .object fields => .json (.object fields)

/-- A double as JSON; one that is not finite is null. -/
def floatJson (x : Binary64) : Json :=
  if x.isFinite then .float x else .null

/-- The JSON that callers get. Times are texts, with the offset of UTC where they are moments. -/
def toJson : Value → Json
  | .null => .null
  | .bool b => .bool b
  | .int n => .integer n.toInt
  | .float x => floatJson x
  | .text s => .string s
  | .timestamp i => .string i.offsetText
  | .localTimestamp w => .string w.text
  | .date d => .string d.text
  | .json j => j

/-- The JSON that a printed statement shows. It differs from `toJson` in the marks of times. -/
def serialized : Value → Json
  | .timestamp i => .string i.zuluText
  | .localTimestamp w => .string w.isoText
  | v => v.toJson

/-- A text between single quotes. -/
def inQuotes (s : String) : String :=
  "'" ++ s ++ "'"

/-- The text on display. -/
def display : Value → String
  | .null => "NULL"
  | .bool b => if b then "true" else "false"
  | .int n => Decimal.intText n.toInt
  | .float x => Decimal.Layout.display.text x
  | .text s => inQuotes s
  | .timestamp i => inQuotes i.offsetText
  | .localTimestamp w => inQuotes w.text
  | .date d => inQuotes d.text
  | .json j => inQuotes j.compact

/-- An optional value; its absence is null. -/
def ofOption : Option Value → Value
  | some v => v
  | none => .null

end Value

/-!
## Records

Ordered fields with a value for each column, as rows to insert and as assignments. A record never
has two fields for one column.
-/

/-- Columns with their values, in the order in which the columns were first given. -/
structure Record where
  /-- The columns and values. -/
  fields : List (String × Value)
  deriving Inhabited, Repr

namespace Record

/-- The record without fields. -/
def empty : Record := ⟨[]⟩

/-- The record with a field set. An existing field keeps its position. -/
def set (r : Record) (column : String) (value : Value) : Record :=
  ⟨putField column value r.fields⟩

/-- The value of a column. -/
def get? (r : Record) (column : String) : Option Value :=
  getField? column r.fields

/-- The record of some columns and values, set one after the other. -/
def ofList (fields : List (String × Value)) : Record :=
  fields.foldl (fun r f => r.set f.1 f.2) empty

/-- Number of fields. -/
def size (r : Record) : Nat :=
  r.fields.length

/-- The record has no field. -/
def isEmpty (r : Record) : Bool :=
  r.fields.isEmpty

/-- The columns, in order. -/
def columns (r : Record) : List String :=
  r.fields.map Prod.fst

/-- The values, in the order of the columns. -/
def values (r : Record) : List Value :=
  r.fields.map Prod.snd

/-- The record of a JSON object; no other JSON value has one. -/
def ofJson? : Json → Option Record
  | .object fields => some (ofList (fields.map fun f => (f.1, Value.ofJson f.2)))
  | _ => none

end Record

/-!
## Rows to insert

What an insert takes: one record or several.
-/

/-- One record or several. -/
inductive InsertRows where
  /-- One record. -/
  | one (row : Record)
  /-- Several records, in order. -/
  | many (rows : List Record)
  deriving Inhabited, Repr

namespace InsertRows

/-- The records in order. -/
def toList : InsertRows → List Record
  | one row => [row]
  | many rows => rows

/-- The rows of a JSON value: an object is one row, an array of objects is several. -/
def ofJson? : Json → Option InsertRows
  | .array items => (items.mapM Record.ofJson?).map many
  | j => (Record.ofJson? j).map one

end InsertRows

end TableQuery

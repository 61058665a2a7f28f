import TableQuery.Database.Error
import TableQuery.Decimal.Basic
import TableQuery.ResultSet
import TableQuery.Text.Basic
import TableQuery.Wire.Numeric

/-!
# Cells of the server

The contents of a cell as the server sends them and the values that callers see. A column whose type
cannot be read is a fault that names the column, even where its cells are null.
-/

/-!
## Column types of the server

The types that columns of a result have, and which of them can be read.
-/

namespace TableQuery

/-- How a type came to be. -/
inductive TypeKind where
  /-- A type that the server brings along. -/
  | builtIn
  /-- A list of names made by a user. -/
  | enumeration
  /-- A restricted type made by a user. -/
  | domain
  /-- A type of an extension or a user. -/
  | extension
  deriving DecidableEq, Repr

/-- The type of a column. -/
structure ColumnType where
  /-- The name that the client calls it by. -/
  name : String
  /-- How it came to be. -/
  kind : TypeKind
  deriving DecidableEq, Repr

namespace ColumnType

/-- The name that the client calls a built-in type by. The padded text type goes by the name of the
one-byte type, which is put in quotes. -/
def clientName : String → String
  | "BPCHAR" => "CHAR"
  | "BPCHAR[]" => "CHAR[]"
  | "CHAR" => "\"CHAR\""
  | "CHAR[]" => "\"CHAR\"[]"
  | name => name

/-- The built-in type of a name. -/
def ofBuiltIn (name : String) : ColumnType :=
  ⟨clientName name, .builtIn⟩

/-- The built-in types that can be read. -/
def readableNames : List String :=
  ["BOOL", "INT2", "INT4", "INT8", "OID", "FLOAT4", "FLOAT8", "NUMERIC", "TEXT", "VARCHAR", "NAME",
    "UUID", "JSON", "JSONB", "TIMESTAMPTZ", "TIMESTAMP", "DATE", "TIME", "INTERVAL", "BYTEA",
    "VOID", "BOOL[]", "INT2[]", "INT4[]", "INT8[]", "FLOAT4[]", "FLOAT8[]", "NUMERIC[]", "TEXT[]",
    "VARCHAR[]", "NAME[]", "UUID[]", "JSON[]", "JSONB[]", "DATE[]"]

/-- The type that no cell has a content of. -/
def voidName : String := "VOID"

/-- Values of the type travel as their text. -/
def isTextual (t : ColumnType) : Bool :=
  t.kind = .enumeration || String.ofList (t.name.toList.map Char.toLower) == "citext"

/-- Cells of the type can be read. -/
def isReadable (t : ColumnType) : Bool :=
  readableNames.contains t.name || t.isTextual

end ColumnType

/-!
## Intervals

A span of months, days and microseconds, which are kept apart because a month has no fixed number
of days. The text names the years, months and days that are there, then the time.
-/

/-- A span of time in three parts, each with a sign of its own. -/
structure Interval where
  /-- Months. -/
  months : Int32
  /-- Days. -/
  days : Int32
  /-- Microseconds. -/
  microseconds : Int64
  deriving DecidableEq, Repr, Inhabited

namespace Interval

/-- Whole years of the months, toward zero. -/
def years (i : Interval) : Int :=
  i.months.toInt.tdiv 12

/-- The months that are left beside the years, with the sign of the months. -/
def monthsOfYear (i : Interval) : Int :=
  i.months.toInt.tmod 12

/-- A count with its unit; only the count one has the singular. -/
def counted (n : Int) (unit : String) : String :=
  Decimal.intText n ++ " " ++ unit ++ if n = 1 then "" else "s"

/-- Microseconds of a second. -/
def microsPerSecond : Nat := 1000000

/-- The fraction of a second without its closing zeros; nothing at all for a whole second. -/
def fractionChars (micros : Nat) : List Char :=
  if micros = 0 then []
  else '.' :: ((Decimal.padded 6 micros).reverse.dropWhile (· = '0')).reverse

/-- The time part: a sign, hours of at least two digits, minutes, seconds and fraction. -/
def timeText (micros : Int) : String :=
  let total := micros.natAbs
  let seconds := total / microsPerSecond
  (if micros < 0 then "-" else "") ++
    String.ofList (Decimal.padded 2 (seconds / 3600) ++ ':' ::
      Decimal.padded 2 (seconds / 60 % 60) ++ ':' :: Decimal.padded 2 (seconds % 60) ++
      fractionChars (total % microsPerSecond))

/-- The named parts that are not zero. -/
def dateParts (i : Interval) : List String :=
  (if i.years = 0 then [] else [counted i.years "year"]) ++
    (if i.monthsOfYear = 0 then [] else [counted i.monthsOfYear "mon"]) ++
    (if i.days = 0 then [] else [counted i.days.toInt "day"])

/-- The parts of the text. The time is left out if it is zero and something else is there. -/
def parts (i : Interval) : List String :=
  if i.microseconds = 0 && !i.dateParts.isEmpty then i.dateParts
  else i.dateParts ++ [timeText i.microseconds.toInt]

/-- The text of an interval. -/
def text (i : Interval) : String :=
  Text.join " " i.parts

/-- Every interval has at least one part. -/
theorem parts_ne_nil (i : Interval) : i.parts ≠ [] := by
  unfold parts
  split
  · next h =>
    intro hn
    simp [hn] at h
  · simp

end Interval

/-! ## Contents of cells -/

/-- What a cell or an element of an array holds. -/
inductive Content where
  /-- A truth value. -/
  | bool (b : Bool)
  /-- An integer of any width. -/
  | integer (n : Int64)
  /-- A number in binary form, single precision already widened. -/
  | float (x : Binary64)
  /-- A number in decimal form. -/
  | numeric (n : Numeric)
  /-- A text. -/
  | text (s : String)
  /-- The sixteen bytes of an identifier. -/
  | uuid (bytes : List UInt8)
  /-- Bytes. -/
  | bytes (bytes : List UInt8)
  /-- A JSON document. -/
  | json (j : Json)
  /-- A moment, in microseconds since 1970. -/
  | timestamp (micros : Int)
  /-- A clock without zone, in microseconds since 1970. -/
  | localTimestamp (micros : Int)
  /-- A date. -/
  | date (d : Date)
  /-- A time of day, in microseconds since midnight. -/
  | time (micros : Int)
  /-- An interval. -/
  | interval (i : Interval)
  deriving Inhabited, Repr

/-- A cell. -/
inductive Cell where
  /-- Nothing. -/
  | null
  /-- A single content. -/
  | content (c : Content)
  /-- An array, whose elements may be null. -/
  | array (items : List (Option Content))
  deriving Inhabited, Repr

/-- Two hexadecimal digits for every byte. -/
def hexChars (bytes : List UInt8) : List Char :=
  bytes.flatMap fun b => [Json.hexDigit (b.toNat / 16), Json.hexDigit (b.toNat % 16)]

/-- Bytes in hexadecimal form behind a mark. -/
def bytesText (bytes : List UInt8) : String :=
  String.ofList ('\\' :: 'x' :: hexChars bytes)

/-- The hexadecimal form of an identifier, in five groups. -/
def uuidText (bytes : List UInt8) : String :=
  let part (first count : Nat) : String := String.ofList (hexChars ((bytes.drop first).take count))
  Text.join "-" [part 0 4, part 4 2, part 6 2, part 8 2, part 10 6]

/-- Microseconds of a second. -/
def microsPerSecond : Int := 1000000

/-- The clock that shows a number of microseconds since 1970. -/
def WallClock.ofMicros (micros : Int) : WallClock :=
  ⟨micros.fdiv microsPerSecond, (micros.fmod microsPerSecond).toNat * 1000⟩

/-- The time of day a number of microseconds after midnight; days that are full do not count. -/
def timeOfDayText (micros : Int) : String :=
  let clock := WallClock.ofMicros micros
  String.ofList (WallClock.timeChars clock.secondOfDay ++ WallClock.fractionChars clock.nanos)

/-- The value of a content. -/
def Content.value : Content → Except NumericFault Value
  | .bool b => .ok (.bool b)
  | .integer n => .ok (.int n)
  | .float x => .ok (.float x)
  | .numeric n => n.text.map .text
  | .text s => .ok (.text s)
  | .uuid bs => .ok (.text (uuidText bs))
  | .bytes bs => .ok (.text (bytesText bs))
  | .json j => .ok (.json j)
  | .timestamp micros => .ok (.timestamp (WallClock.ofMicros micros).assumeUtc)
  | .localTimestamp micros => .ok (.localTimestamp (WallClock.ofMicros micros))
  | .date d => .ok (.date d)
  | .time micros => .ok (.text (timeOfDayText micros))
  | .interval i => .ok (.text i.text)

/-- The JSON of an array's element. -/
def elementJson : Option Content → Except NumericFault Json
  | none => .ok .null
  | some c => c.value.map Value.toJson

/-- The value of a cell. Arrays are JSON arrays. -/
def Cell.value : Cell → Except NumericFault Value
  | .null => .ok .null
  | .content c => c.value
  | .array items => (items.mapM elementJson).map fun js => .json (.array js)

/-- A column of the server's result. -/
structure WireColumn where
  /-- Its name. -/
  name : String
  /-- Its type. -/
  type : ColumnType
  deriving DecidableEq, Repr

/-- Read the cell at a position, counted from 0. A type that cannot be read is blamed on the column
by name, a content that cannot be read by position. -/
def WireColumn.read (column : WireColumn) (position : Nat) (cell : Cell) : Except Fault Value :=
  if !column.type.isReadable then
    .error (.columnDecode column.name
      ("unsupported column type " ++ column.type.name ++ "; cast it to text"))
  else if column.type.name = ColumnType.voidName then .ok .null
  else
    match cell.value with
    | .ok v => .ok v
    | .error fault => .error (.columnDecode (Decimal.natText position) fault.message)

/-- Read the cells of a row from a position on. -/
def readCells (position : Nat) : List WireColumn → List Cell → Except Fault (List Value)
  | column :: columns, cell :: cells => do
    let v ← column.read position cell
    let vs ← readCells (position + 1) columns cells
    return v :: vs
  | _, _ => .ok []

/-- A result as the server sends it. -/
structure WireResult where
  /-- The columns. -/
  columns : List WireColumn
  /-- The cells of every row. -/
  rows : List (List Cell)
  deriving Inhabited, Repr

/-- Read a result. Without rows there are no columns either, so nothing can fail. -/
def WireResult.read (r : WireResult) : Except Fault ResultSet :=
  if r.rows.isEmpty then .ok ⟨[], []⟩
  else do
    let rows ← r.rows.mapM (readCells 0 r.columns)
    return ⟨r.columns.map fun c => ⟨c.name, ColumnKind.ofTypeName c.type.name⟩, rows⟩

end TableQuery

import TableQuery.Filter.Basic
import TableQuery.Filter.Expression

/-!
# Query options

What a caller may ask for beside table and columns: a filter, an order, paging, further text and
the columns to return.
-/

namespace TableQuery

/-- A direction to sort in. -/
inductive SortOrder where
  /-- Smallest first. -/
  | ascending
  /-- Largest first. -/
  | descending
  deriving DecidableEq, Repr, Inhabited

/-- The keyword of a direction. -/
def SortOrder.keyword : SortOrder → String
  | .ascending => "ASC"
  | .descending => "DESC"

/-- The options of one query. -/
structure QueryOptions where
  /-- The conditions on rows. -/
  filter : Filter := .empty
  /-- The column to sort by. -/
  orderBy : Option String := none
  /-- The direction to sort in; ascending if not given. -/
  order : Option SortOrder := none
  /-- Rows to skip; zero is the same as none. -/
  skip : Option UInt64 := none
  /-- Rows to return at most; zero is the same as no limit. -/
  limit : Option UInt64 := none
  /-- Text that is put behind the order as it is. -/
  extra : Option String := none
  /-- Columns that an update returns. -/
  returning : Option String := none
  deriving Inhabited, Repr

namespace QueryOptions

/-- The options with a condition added to their filter. -/
def andWhere (o : QueryOptions) (c : Condition) : QueryOptions :=
  { o with filter := o.filter.push c }

/-- The options with a column and a direction to sort by. -/
def orderedBy (o : QueryOptions) (column : String) (order : SortOrder) : QueryOptions :=
  { o with orderBy := some column, order := some order }

end QueryOptions

/-!
## Query options from JSON

Options are an object with the fields `where`, `orderBy`, `order`, `skip`, `limit`, `extra` and
`return`, or an array of these seven in this order. Every field may be absent; null stands for
absence except in `where`.
-/

/-- Read a value that null stands for the absence of. -/
def readNullable? {α : Type} (read : Json → Option α) : Json → Option (Option α)
  | .null => some none
  | j => (read j).map some

/-- Read a natural number of at most 64 bits. -/
def readUInt64? : Json → Option UInt64
  | .integer n => if 0 ≤ n then some (UInt64.ofNat n.toNat) else none
  | _ => none

/-- Read a direction. -/
def SortOrder.ofJson? : Json → Option SortOrder :=
  readChoice? [("asc", .ascending), ("ASC", .ascending), ("desc", .descending),
    ("DESC", .descending)]

namespace QueryOptions

/-- The names of the fields, in the order of the array form. -/
def fieldNames : List String :=
  ["where", "orderBy", "order", "skip", "limit", "extra", "return"]

/-- Read options. Objects may have further fields, arrays no further items. -/
def ofJson? : Json → Option QueryOptions
  | .object fields => do
    let filter ← readField? "where" .empty Filter.ofJson? fields
    let orderBy ← readField? "orderBy" none (readNullable? Json.asString?) fields
    let order ← readField? "order" none (readNullable? SortOrder.ofJson?) fields
    let skip ← readField? "skip" none (readNullable? readUInt64?) fields
    let limit ← readField? "limit" none (readNullable? readUInt64?) fields
    let extra ← readField? "extra" none (readNullable? Json.asString?) fields
    let returning ← readField? "return" none (readNullable? Json.asString?) fields
    return ⟨filter, orderBy, order, skip, limit, extra, returning⟩
  | .array items => do
    if 7 < items.length then none
    else
      let filter ← readItem? 0 .empty Filter.ofJson? items
      let orderBy ← readItem? 1 none (readNullable? Json.asString?) items
      let order ← readItem? 2 none (readNullable? SortOrder.ofJson?) items
      let skip ← readItem? 3 none (readNullable? readUInt64?) items
      let limit ← readItem? 4 none (readNullable? readUInt64?) items
      let extra ← readItem? 5 none (readNullable? Json.asString?) items
      let returning ← readItem? 6 none (readNullable? Json.asString?) items
      return ⟨filter, orderBy, order, skip, limit, extra, returning⟩
  | _ => none

end QueryOptions

end TableQuery

import TableQuery.Json.Basic
import TableQuery.Text.Basic

/-!
# What is known of a table

The names that stand in statements, the types of columns, and the facts about a table that
statements need.
-/

/-!
## Identifiers

The names that may stand in a statement without quotes: ASCII letters, digits and underscores, not
beginning with a digit, with at most one qualifier in front.
-/

namespace TableQuery

/-- A character that may begin an identifier. -/
def isIdentifierStart (c : Char) : Bool :=
  c.isAlpha || c = '_'

/-- A character that may stand in an identifier. -/
def isIdentifierPart (c : Char) : Bool :=
  c.isAlphanum || c = '_'

/-- The characters form an identifier. -/
def isIdentifierChars : List Char → Bool
  | [] => false
  | c :: cs => isIdentifierStart c && cs.all isIdentifierPart

/-- The text is an identifier. -/
def isIdentifier (s : String) : Bool :=
  isIdentifierChars s.toList

/-- The characters form an identifier, or two of them around a point. -/
def isQualifiedChars (cs : List Char) : Bool :=
  match Text.cutAt ['.'] cs with
  | none => isIdentifierChars cs
  | some (qualifier, name) => isIdentifierChars qualifier && isIdentifierChars name

/-- The text is an identifier with at most one qualifier. -/
def isQualifiedIdentifier (s : String) : Bool :=
  isQualifiedChars s.toList

/-- What may begin an identifier may stand in it. -/
theorem isIdentifierPart_of_start {c : Char} (h : isIdentifierStart c = true) :
    isIdentifierPart c = true := by
  simp only [isIdentifierStart, isIdentifierPart, Char.isAlphanum, Bool.or_eq_true,
    decide_eq_true_eq] at h ⊢
  rcases h with h | h
  · exact Or.inl (Or.inl h)
  · exact Or.inr h

/-- An identifier holds identifier characters only. -/
theorem all_isIdentifierPart {cs : List Char} (h : isIdentifierChars cs = true) :
    cs.all isIdentifierPart = true := by
  cases cs with
  | nil => rfl
  | cons c cs =>
    simp only [isIdentifierChars, Bool.and_eq_true] at h
    simp only [List.all_cons, Bool.and_eq_true]
    exact ⟨isIdentifierPart_of_start h.1, h.2⟩

/-!
## Declared column types

Types that placeholders are cast to. A type name is a plain name in lower case or a name in double
quotes, with at most one schema in front; nothing else gets into a column's type.
-/

/-- A character that may begin a plain type name. -/
def isTypeStart (c : Char) : Bool :=
  c.isLower || c = '_'

/-- A character that may stand in a plain type name. -/
def isTypePart (c : Char) : Bool :=
  c.isLower || c.isDigit || c = '_'

/-- What follows one plain or quoted name at the beginning of a text. -/
def afterTypePart? : List Char → Option (List Char)
  | [] => none
  | c :: cs =>
    if c = '"' then
      match cs.takeWhile (· ≠ '"'), cs.dropWhile (· ≠ '"') with
      | _ :: _, _ :: rest => some rest
      | _, _ => none
    else if isTypeStart c then some (cs.dropWhile isTypePart)
    else none

/-- The characters form a type name. -/
def isTypeNameChars (cs : List Char) : Bool :=
  match afterTypePart? cs with
  | some [] => true
  | some (c :: rest) => c = '.' && afterTypePart? rest = some []
  | none => false

/-- The name of a type as it is written behind a cast. -/
structure TypeName where
  /-- The written name. -/
  text : String
  /-- It is well formed. -/
  wellFormed : isTypeNameChars text.toList = true
  deriving DecidableEq, Repr

/-- The type name that a text is. -/
def TypeName.ofString? (s : String) : Option TypeName :=
  if h : isTypeNameChars s.toList = true then some ⟨s, h⟩ else none

/-- The casts of a table's columns. -/
structure ColumnTypes where
  /-- Columns and the types they are cast to. -/
  entries : List (String × TypeName)
  deriving DecidableEq, Repr

namespace ColumnTypes

/-- No casts. -/
def empty : ColumnTypes := ⟨[]⟩

/-- The type of a column. -/
def get? (types : ColumnTypes) (column : String) : Option TypeName :=
  getField? column types.entries

/-- The types with one of them set. -/
def set (types : ColumnTypes) (column : String) (type : TypeName) : ColumnTypes :=
  ⟨putField column type types.entries⟩

/-- The types with one of them set by its written name, if that is a type name. -/
def insert? (types : ColumnTypes) (column written : String) : Option ColumnTypes :=
  (TypeName.ofString? written).map (types.set column)

/-- The types with one of them set; what is no type name changes nothing. -/
def insert (types : ColumnTypes) (column written : String) : ColumnTypes :=
  (types.insert? column written).getD types

/-- The types of a list of columns, set one after the other. -/
def ofList (columns : List (String × String)) : ColumnTypes :=
  columns.foldl (fun types c => types.insert c.1 c.2) empty

/-- Number of columns that have a type. -/
def size (types : ColumnTypes) : Nat :=
  types.entries.length

/-- No column has a type. -/
def isEmpty (types : ColumnTypes) : Bool :=
  types.entries.isEmpty

/-- Looking up a column after setting one. -/
theorem get?_set (types : ColumnTypes) (column : String) (type : TypeName) (other : String) :
    (types.set column type).get? other =
      if column = other then some type else types.get? other :=
  getField?_putField column type types.entries other

end ColumnTypes

/-!
## Facts about a table

What a statement needs to know about its table: whether rows are deleted softly, whether updates
are stamped, and the types of the columns.
-/

/-- The column whose value marks a row as deleted. -/
def softDeleteColumn : String := "deleted_at"

/-- The column that every update stamps with the current time. -/
def updatedAtColumn : String := "updated_at"

/-- Facts about a table. -/
structure TableInfo where
  /-- The table has the column that marks deleted rows. -/
  softDelete : Bool := false
  /-- The table has the column that updates stamp. -/
  updatedAt : Bool := false
  /-- The types that bound values are cast to. -/
  columnTypes : ColumnTypes := .empty
  deriving DecidableEq, Repr

/-- Nothing is known about the table. -/
def TableInfo.unknown : TableInfo := {}

end TableQuery

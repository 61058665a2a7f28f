import TableQuery.TableInfo
import TableQuery.Text.Basic
import TableQuery.Value

/-!
# Statements with placeholders

A statement is written from pieces: fixed text, and placeholders `$n` with an optional cast. The
n-th parameter is bound to the placeholder `$n`.
-/

namespace TableQuery

/-- A piece of a statement. -/
inductive Piece where
  /-- Text that is taken as it is. -/
  | text (s : String)
  /-- The placeholder of a parameter, counted from 1, with the type it is cast to. -/
  | placeholder (number : Nat) (cast : Option TypeName)
  deriving DecidableEq, Repr

/-- The written form of a piece. -/
def Piece.render : Piece → String
  | .text s => s
  | .placeholder number none => "$" ++ Decimal.natText number
  | .placeholder number (some type) => "$" ++ Decimal.natText number ++ "::" ++ type.text

/-- The written form of pieces. -/
def renderPieces (pieces : List Piece) : String :=
  String.join (pieces.map Piece.render)

/-- Pieces with a separating text between neighbours. -/
def separated (separator : String) : List (List Piece) → List Piece
  | [] => []
  | [part] => part
  | part :: rest => part ++ Piece.text separator :: separated separator rest

/-- The written form of a piece with others behind it. -/
theorem renderPieces_cons (piece : Piece) (pieces : List Piece) :
    renderPieces (piece :: pieces) = piece.render ++ renderPieces pieces :=
  String.toList_inj.1 (by simp [renderPieces, String.toList_join])

/-- The written form of pieces in a row. -/
theorem renderPieces_append (first second : List Piece) :
    renderPieces (first ++ second) = renderPieces first ++ renderPieces second :=
  String.toList_inj.1 (by simp [renderPieces, String.toList_join])

/-- The written form of no pieces. -/
theorem renderPieces_nil : renderPieces [] = "" := rfl

/-- The written form of separated parts. -/
theorem renderPieces_separated (separator : String) (parts : List (List Piece)) :
    renderPieces (separated separator parts) =
      Text.join separator (parts.map renderPieces) := by
  induction parts with
  | nil => rfl
  | cons part rest ih =>
    cases rest with
    | nil => simp [separated, Text.join]
    | cons next rest =>
      rw [separated, renderPieces_append, renderPieces_cons, ih]
      · simp [Text.join, Piece.render, String.append_assoc]
      · simp

/-- A statement that is ready to be sent. -/
structure Statement where
  /-- The pieces of its text. -/
  pieces : List Piece
  /-- The values bound to its placeholders. -/
  parameters : List Value
  /-- It asks the catalog on behalf of another statement. -/
  catalog : Bool
  deriving Repr

namespace Statement

/-- The text of the statement. -/
def sql (s : Statement) : String :=
  renderPieces s.pieces

/-- A statement written by hand. -/
def handwritten (sql : String) (parameters : List Value) : Statement :=
  ⟨[.text sql], parameters, false⟩

/-- The numbers behind the dollar signs of a text, from a byte position on, in order. Digits that
were read and dollar signs without digits are passed over. There is no result if a number could not
be taken out of the text. -/
def numbersFrom? (text : String) (i : Nat) : Option (List String) :=
  if h : i < text.utf8ByteSize then
    if text.getUTF8Byte ⟨i⟩ h = '$'.toUInt8 then
      let first := i + 1
      let last := Text.digitsEnd text first
      if first < last then do
        let number ← Text.slice? text first last
        let more ← numbersFrom? text (max last first)
        return number :: more
      else numbersFrom? text (max last first)
    else numbersFrom? text (i + 1)
  else some []
termination_by text.utf8ByteSize - i

/-- Number of different placeholders in the text. -/
def placeholderCount (s : Statement) : Nat :=
  ((numbersFrom? s.sql 0).getD []).eraseDups.length

/-- The text with its parameters behind it, if it has any. -/
def display (s : Statement) : String :=
  if s.parameters.isEmpty then s.sql
  else s.sql ++ " -- [" ++ Text.join ", " (s.parameters.map Value.display) ++ "]"

end Statement

namespace ColumnTypes

/-- Values that are cast to the type of their column. The others already compare with, and assign
to, their whole family of types. -/
def castsValue : Value → Bool
  | .text _ | .int _ | .bool _ | .json _ => true
  | _ => false

/-- The placeholder of a value that is bound for a column. -/
def placeholder (types : ColumnTypes) (column : String) (number : Nat) (value : Value) : Piece :=
  .placeholder number (if castsValue value then types.get? column else none)

end ColumnTypes

end TableQuery

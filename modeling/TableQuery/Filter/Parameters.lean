import TableQuery.Filter.Basic
import TableQuery.InputError
import TableQuery.Sql
import TableQuery.Text.Basic
import TableQuery.Text.Uppercase

/-!
# Compiling filters

A filter becomes a predicate with placeholders. Placeholders are numbered on from the parameters
that the statement already has, so a predicate continues the numbers of what stands before it.
-/

namespace TableQuery

/-- The operators that a condition may use, as they are written in a statement. -/
def operators : List String :=
  ["=", "!=", "<>", "<", "<=", ">", ">=", "LIKE", "ILIKE", "NOT LIKE", "NOT ILIKE"]

/-- The operators that match patterns. Their right-hand side is always text. -/
def patternOperators : List String :=
  ["LIKE", "ILIKE", "NOT LIKE", "NOT ILIKE"]

/-- The words of an operator in upper case, one blank between them; no words at all mean `=`. -/
def canonicalOperator (given : String) : String :=
  match Text.words given.toList with
  | [] => "="
  | words =>
    String.ofList (Text.upperChars ((String.intercalate " " (words.map String.ofList)).toList))

/-- The operator that a given text means, if it is a known one. -/
def operator? (given : String) : Option String :=
  let canonical := canonicalOperator given
  if operators.contains canonical then some canonical else none

/-- The keyword of a connective, between blanks. -/
def Connective.keyword : Connective → String
  | .and => " AND "
  | .or => " OR "

/-- The columns and parameters of a compiled part of a statement. -/
structure Compiled where
  /-- The pieces of its text. -/
  pieces : List Piece
  /-- The values that it binds, in the order of their placeholders. -/
  values : List Value
  deriving Repr

namespace Condition

/-- The column as it is written, with a qualifier if it has none and one is given. -/
def writtenColumn (c : Condition) (qualifier : Option String) : String :=
  match qualifier with
  | some table => if c.column.toList.contains '.' then c.column else table ++ "." ++ c.column
  | none => c.column

/-- Compile one condition behind `count` parameters. -/
def compile (c : Condition) (qualifier : Option String) (types : ColumnTypes) (count : Nat) :
    Except InputError Compiled :=
  if isQualifiedIdentifier c.column then
    let column := c.writtenColumn qualifier
    match c.value with
    | .isNull => .ok ⟨[.text (column ++ " IS NULL")], []⟩
    | .notNull => .ok ⟨[.text (column ++ " IS NOT NULL")], []⟩
    | .value v =>
      match operator? c.operator with
      | none => .error (.malformedFilter c.column (.unsupportedOperator c.operator))
      | some op =>
        let placeholder :=
          if patternOperators.contains op then Piece.placeholder (count + 1) none
          else types.placeholder c.column (count + 1) v
        .ok ⟨[.text (column ++ " " ++ op ++ " "), placeholder], [v]⟩
  else .error (.malformedFilter c.column .invalidColumn)

end Condition

/-- Compile conditions, each behind its connective, after `count` parameters. -/
def compileRest (qualifier : Option String) (types : ColumnTypes) :
    Nat → List Condition → Except InputError Compiled
  | _, [] => .ok ⟨[], []⟩
  | count, c :: rest => do
    let one ← c.compile qualifier types count
    let others ← compileRest qualifier types (count + one.values.length) rest
    .ok ⟨.text c.connective.keyword :: one.pieces ++ others.pieces, one.values ++ others.values⟩

namespace Filter

/-- The predicate of a filter after `count` parameters; an empty filter has none. -/
def predicate (f : Filter) (qualifier : Option String) (types : ColumnTypes) (count : Nat) :
    Except InputError (Option Compiled) :=
  match f.conditions with
  | [] => .ok none
  | c :: rest => do
    let one ← c.compile qualifier types count
    let others ← compileRest qualifier types (count + one.values.length) rest
    .ok (some ⟨one.pieces ++ others.pieces, one.values ++ others.values⟩)

/-- The clause of a filter, with its keyword; an empty filter has an empty clause. -/
def clause (f : Filter) (qualifier : Option String) (types : ColumnTypes) (count : Nat) :
    Except InputError Compiled := do
  match ← f.predicate qualifier types count with
  | none => .ok ⟨[], []⟩
  | some p => .ok ⟨.text " WHERE " :: p.pieces, p.values⟩

/-- Compile a filter behind given parameters: the text of its clause and all parameters. -/
def compile (f : Filter) (parameters : List Value) (qualifier : Option String)
    (types : ColumnTypes) : Except InputError (String × List Value) := do
  let c ← f.clause qualifier types parameters.length
  .ok (renderPieces c.pieces, parameters ++ c.values)

end Filter

/-!
## Filters and the parameters of a caller

A caller keeps a list of parameters, and a filter adds its values to it. Every condition pushes its
value when it is written, so a condition that fails may stand behind others that have pushed theirs.
The list is then cut back to where it was.
-/

/-- Work on a list of parameters that may fail. What was pushed before a failure stays pushed. -/
abbrev ParameterM := ExceptT InputError (StateM (List Value))

/-- Write a condition behind the parameters and push its value. -/
def Condition.write (c : Condition) (qualifier : Option String) (types : ColumnTypes) :
    ParameterM (List Piece) := do
  let one ← MonadExcept.ofExcept (c.compile qualifier types (← get).length)
  modify (· ++ one.values)
  return one.pieces

/-- Write conditions one after the other, each behind its connective. -/
def writeRest (qualifier : Option String) (types : ColumnTypes) :
    List Condition → ParameterM (List Piece)
  | [] => return []
  | c :: rest => do
    let one ← c.write qualifier types
    let others ← writeRest qualifier types rest
    return .text c.connective.keyword :: one ++ others

namespace Filter

/-- Write the clause of a filter, with its keyword. -/
def write (f : Filter) (qualifier : Option String) (types : ColumnTypes) :
    ParameterM (List Piece) :=
  match f.conditions with
  | [] => return []
  | c :: rest => do
    let one ← c.write qualifier types
    let others ← writeRest qualifier types rest
    return .text " WHERE " :: (one ++ others)

/-- Compile a filter into given parameters: the text of its clause, or why it has none, and the
parameters behind it. After a failure they are cut back to as many as were given. -/
def compileInto (f : Filter) (parameters : List Value) (qualifier : Option String)
    (types : ColumnTypes) : Except InputError String × List Value :=
  match (f.write qualifier types).run parameters with
  | (.ok pieces, pushed) => (.ok (renderPieces pieces), pushed)
  | (.error e, pushed) => (.error e, pushed.take parameters.length)

end Filter

end TableQuery

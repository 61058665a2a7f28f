import TableQuery.Binary64.Basic
import TableQuery.Filter.Basic
import TableQuery.InputError
import TableQuery.Json.Document
import TableQuery.Text.Basic

/-!
# Reading filters

Conditions are written as expressions, and filters as JSON.
-/

/-!
## Condition expressions

The compact form of a condition: column, operator and literal, as in `age>=18` or `name~~%bob%`.
The operator that begins first counts, and of two that begin together the longer one.
-/

namespace TableQuery

/-- The operators of the compact form with the operators that they stand for. Of two that can begin
at one place, the longer one stands first. -/
def compactOperators : List (String × String) :=
  [("!~~", "NOT LIKE"), ("~~", "LIKE"), (">=", ">="), ("<=", "<="), ("!=", "!="), ("<>", "<>"),
    ("=", "="), ("<", "<"), (">", ">")]

/-- The compact operator at the beginning of a text. -/
def operatorAt? (cs : List Char) : Option (String × String) :=
  compactOperators.find? fun entry => entry.1.toList.isPrefixOf cs

/-- The text before the first operator, that operator, and the text after it. -/
def cutOperator : List Char → Option (List Char × (String × String) × List Char)
  | [] => none
  | c :: cs =>
    match operatorAt? (c :: cs) with
    | some entry => some ([], entry, (c :: cs).drop entry.1.length)
    | none => (cutOperator cs).map fun (before, entry, after) => (c :: before, entry, after)

/-- The value of a literal: text in single quotes, an integer of 64 bits, a finite decimal number,
a truth value, and otherwise the text itself. -/
def literalValue (raw : List Char) : Value :=
  match Text.between? '\'' '\'' raw with
  | some inner => .text (String.ofList inner)
  | none =>
    match Decimal.readSigned? 64 raw with
    | some n => .int (Int64.ofInt n)
    | none =>
      match (Binary64.read? raw).filter Binary64.isFinite with
      | some x => .float x
      | none =>
        match String.ofList raw with
        | "true" => .bool true
        | "false" => .bool false
        | s => .text s

/-- The right-hand side of a literal. -/
def literalSide (raw : List Char) : FilterValue :=
  match String.ofList raw with
  | "null" => .isNull
  | "notnull" | "not_null" => .notNull
  | _ => .value (literalValue raw)

/-- Read a condition from its compact form. -/
def Condition.parse (expression : String) : Except InputError Condition :=
  let trimmed := Text.trimChars expression.toList
  let fail (fault : FilterFault) : Except InputError Condition :=
    .error (.malformedFilter (String.ofList trimmed) fault)
  match cutOperator trimmed with
  | none => fail .noOperator
  | some (before, (_, operator), after) =>
    let column := Text.trimChars before
    if column.isEmpty then fail .missingColumn
    else
      .ok (.withValue (String.ofList column) operator (literalSide (Text.trimChars after)))

/-!
## Filters from JSON

A condition is an object with the fields `type`, `col`, `op` and `val`, or an array of these four
in this order. A filter is one condition or an array of conditions; being one condition is tried
first.
-/

/-- All values that a name has among written fields. -/
def fieldValues (name : String) (fields : List (String × Json)) : List Json :=
  (fields.filter fun f => f.1 == name).map Prod.snd

/-- Read a field that may be absent and must not be repeated. -/
def readField? {α : Type} (name : String) (default : α) (read : Json → Option α)
    (fields : List (String × Json)) : Option α :=
  match fieldValues name fields with
  | [] => some default
  | [j] => read j
  | _ => none

/-- Read the item at a position, which may be absent. -/
def readItem? {α : Type} (index : Nat) (default : α) (read : Json → Option α)
    (items : List Json) : Option α :=
  match items[index]? with
  | none => some default
  | some j => read j

/-- One of a list of named choices: its name, or an object whose only field has its name and the
value null. -/
def readChoice? {α : Type} (choices : List (String × α)) : Json → Option α
  | .string s => choices.lookup s
  | .object [(name, .null)] => choices.lookup name
  | _ => none

namespace Connective

/-- Read a connective. -/
def ofJson? : Json → Option Connective :=
  readChoice? [("and", .and), ("or", .or)]

end Connective

namespace Condition

/-- Read a condition. Objects may have further fields, arrays no further items. -/
def ofJson? : Json → Option Condition
  | .object fields => do
    let connective ← readField? "type" .and Connective.ofJson? fields
    let column ← readField? "col" none (fun j => j.asString?.map some) fields
    let operator ← readField? "op" "=" Json.asString? fields
    let value ← readField? "val" .isNull (fun j => some (.ofJson j.gathered)) fields
    return ⟨connective, ← column, operator, value⟩
  | .array items => do
    if 4 < items.length then none
    else
      let connective ← readItem? 0 .and Connective.ofJson? items
      let column ← readItem? 1 none (fun j => j.asString?.map some) items
      let operator ← readItem? 2 "=" Json.asString? items
      let value ← readItem? 3 .isNull (fun j => some (.ofJson j.gathered)) items
      return ⟨connective, ← column, operator, value⟩
  | _ => none

end Condition

namespace Filter

/-- Read a filter. -/
def ofJson? (j : Json) : Option Filter :=
  match Condition.ofJson? j with
  | some c => some ⟨[c]⟩
  | none =>
    match j with
    | .array items => (items.mapM Condition.ofJson?).map Filter.mk
    | _ => none

end Filter

end TableQuery

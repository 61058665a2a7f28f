import TableQuery.Database.Error
import TableQuery.Text.Basic

/-!
# Command errors

Why a command failed, with the chain of causes behind it, and how the chain is reported.
-/

namespace TableQuery

/-- The causes of a fault, nearest first. -/
def Fault.causes : Fault → List String
  | .connection fault => [fault.message]
  | .database message => [message]
  | .columnDecode _ detail => [detail]
  | .decode detail => [detail]
  | _ => []

/-- The wordings of a database error and its causes, nearest first. -/
def DatabaseError.chain (e : DatabaseError) : List String :=
  e.message :: match e with
    | .refused _ fault | .query fault => fault.message :: fault.causes
    | .connect error => [addressMessage error, error.message]
    | _ => []

namespace Command

/-- What the data of a command is for. -/
inductive DataUse where
  /-- Rows to insert. -/
  | insert
  /-- New values of an update. -/
  | update
  deriving DecidableEq, Repr

/-- An operation on a database. -/
inductive Operation where
  /-- Rows are selected. -/
  | select
  /-- Rows are counted. -/
  | count
  /-- Rows are inserted. -/
  | insert
  /-- Rows are updated. -/
  | update
  /-- Rows are deleted. -/
  | delete
  /-- A column is looked up. -/
  | hasColumn
  deriving DecidableEq, Repr

/-- Why a command failed. -/
inductive Error where
  /-- The input was rejected. -/
  | input (error : InputError)
  /-- A condition cannot be read. -/
  | badCondition (expression : String) (error : InputError)
  /-- All rows of a table would be deleted. -/
  | deletesAll (table : String)
  /-- The data is no JSON. -/
  | notJson (use : DataUse)
  /-- The data has the wrong shape. -/
  | wrongShape (use : DataUse)
  /-- A cast has no type. -/
  | castWithoutType (cast : String)
  /-- The type of a cast is none. -/
  | castType (cast type : String)
  /-- The configuration file cannot be used. -/
  | configFile (path : String) (error : ConfigError)
  /-- The environment is no configuration. -/
  | environment (error : ConfigError)
  /-- No pool of connections can be made. -/
  | pool (error : DatabaseError)
  /-- An operation failed. -/
  | operation (operation : Operation) (table : String) (error : DatabaseError)
  deriving DecidableEq, Repr

/-- A text between single quotes. -/
def named (s : String) : String :=
  "'" ++ s ++ "'"

/-- The name of what data is for. -/
def DataUse.name : DataUse → String
  | .insert => "Insert"
  | .update => "Update"

/-- The shape that data must have. -/
def DataUse.shape : DataUse → String
  | .insert => "an object or an array of objects"
  | .update => "a JSON object"

/-- The wording of an operation on a table. -/
def Operation.text : Operation → String
  | .select => "select from"
  | .count => "count on"
  | .insert => "insert into"
  | .update => "update of"
  | .delete => "delete from"
  | .hasColumn => "column lookup on"

/-- The wordings of an error and its causes, nearest first. -/
def Error.chain : Error → List String
  | .input error => [error.message]
  | .badCondition expression error =>
    ["Invalid --where expression " ++ named expression, error.message]
  | .deletesAll table =>
    ["Refusing to delete every row of " ++ named table ++ " without --all"]
  | .notJson use => [use.name ++ " data is not JSON"]
  | .wrongShape use => [use.name ++ " data must be " ++ use.shape]
  | .castWithoutType cast => ["Invalid --cast " ++ named cast ++ ": expected COLUMN=TYPE"]
  | .castType cast type =>
    ["Invalid --cast " ++ named cast ++ ": " ++ named type ++ " is not a type name"]
  | .configFile path error =>
    ("Failed to load config from " ++ path) :: (DatabaseError.config error).chain
  | .environment error =>
    "Failed to read database settings from environment" :: (DatabaseError.config error).chain
  | .pool error => "Failed to create database pool" :: error.chain
  | .operation op table error =>
    (op.text ++ " " ++ named table ++ " failed") :: error.chain

/-- A cause on lines of its own: behind a mark, further lines as deep as the first. -/
def causeLines (mark : String) (deep : Nat) (cause : String) : String :=
  mark ++ Text.join ("\n" ++ String.ofList (List.replicate deep ' '))
    ((Text.splitAt '\n' cause.toList).map String.ofList)

/-- A cause with its number in front, right-aligned. -/
def numberedCause (number : Nat) (cause : String) : String :=
  let digits := Decimal.digits number
  let mark := List.replicate (5 - digits.length) ' ' ++ digits ++ ": ".toList
  causeLines (String.ofList mark) 7 cause

/-- Causes with their numbers, from a number on. -/
def numberedCauses (number : Nat) : List String → List String
  | [] => []
  | cause :: causes => numberedCause number cause :: numberedCauses (number + 1) causes

/-- The report of an error: its wording, and its causes below, numbered if there are several. -/
def report : List String → String
  | [] => ""
  | [message] => "Error: " ++ message ++ "\n"
  | [message, cause] =>
    "Error: " ++ message ++ "\n\nCaused by:\n" ++ causeLines "    " 4 cause ++ "\n"
  | message :: causes =>
    "Error: " ++ message ++ "\n\nCaused by:\n" ++
      Text.join "\n" (numberedCauses 0 causes) ++ "\n"

/-- The report of an error. -/
def Error.report (e : Error) : String :=
  Command.report e.chain

end Command

end TableQuery

import TableQuery.Address.Basic
import TableQuery.Config.Basic
import TableQuery.Decimal.Basic
import TableQuery.InputError

/-!
# Faults and errors

What can go wrong on the way to the database and back, and why an operation on it fails.
-/

/-!
## Faults

What can go wrong with a statement on its way to the database and back, with the wording of each
fault. Only refused connections are worth another attempt; a pool that finds no connection in time
has been refused on its own attempts.
-/

namespace TableQuery

/-- How a connection breaks. -/
inductive ConnectionFault where
  /-- Nothing accepts the connection. -/
  | refused
  /-- The other side resets the connection. -/
  | reset
  /-- The connection is aborted. -/
  | aborted
  /-- No answer in time. -/
  | timedOut
  deriving DecidableEq, Repr

/-- A fault of a statement. -/
inductive Fault where
  /-- The connection breaks. -/
  | connection (fault : ConnectionFault)
  /-- No connection becomes free in time. -/
  | poolTimedOut
  /-- The pool of connections is closed. -/
  | poolClosed
  /-- The task that holds the connection has crashed. -/
  | workerCrashed
  /-- A row was expected. -/
  | rowNotFound
  /-- A column was expected. -/
  | columnNotFound (name : String)
  /-- A type was expected. -/
  | typeNotFound (name : String)
  /-- A cell of a column cannot be decoded. -/
  | columnDecode (column detail : String)
  /-- Something else cannot be decoded. -/
  | decode (detail : String)
  /-- The messages of the database make no sense. -/
  | protocol (detail : String)
  /-- The database reports an error. -/
  | database (message : String)
  deriving DecidableEq, Repr

/-- The wording of a broken connection. -/
def ConnectionFault.message : ConnectionFault → String
  | .refused => "connection refused"
  | .reset => "connection reset"
  | .aborted => "connection aborted"
  | .timedOut => "timed out"

/-- The wording of a fault. -/
def Fault.message : Fault → String
  | .connection fault => "error communicating with database: " ++ fault.message
  | .poolTimedOut => "pool timed out while waiting for an open connection"
  | .poolClosed => "attempted to acquire a connection on a closed pool"
  | .workerCrashed => "attempted to communicate with a crashed background worker"
  | .rowNotFound => "no rows returned by a query that expected to return at least one row"
  | .columnNotFound name => "no column found for name: " ++ name
  | .typeNotFound name => "type named " ++ name ++ " not found"
  | .columnDecode column detail =>
    "error occurred while decoding column " ++ column ++ ": " ++ detail
  | .decode detail => "error occurred while decoding: " ++ detail
  | .protocol detail => "encountered unexpected or invalid data: " ++ detail
  | .database message => "error returned from database: " ++ message

/-- The connection was refused. -/
def Fault.isRefused : Fault → Bool
  | .connection .refused | .poolTimedOut => true
  | _ => false

/-!
## Database errors

Why an operation on the database failed: its input, its statement, its result or the configuration.
-/

/-- What is wrong with a result. -/
inductive ResultFault where
  /-- A column cannot be decoded. -/
  | undecodable (column detail : String)
  /-- A count has no usable number. -/
  | noCount
  deriving DecidableEq, Repr

/-- Why an operation failed. -/
inductive DatabaseError where
  /-- The input was rejected before any statement was sent. -/
  | input (error : InputError)
  /-- The connection was refused on every attempt. -/
  | refused (attempts : Nat) (fault : Fault)
  /-- The statement failed; it was not tried again. -/
  | query (fault : Fault)
  /-- No pool of connections can be made for the address. -/
  | connect (error : AddressError)
  /-- The statement succeeded, but its result is not usable. -/
  | result (fault : ResultFault)
  /-- The configuration cannot be used. -/
  | config (error : ConfigError)
  deriving DecidableEq, Repr

/-- The wording of a result fault. -/
def ResultFault.message : ResultFault → String
  | .undecodable column detail => "column '" ++ column ++ "' could not be decoded: " ++ detail
  | .noCount => "COUNT returned no count column"

/-- The wording of an address error as the pool reports it. -/
def addressMessage (error : AddressError) : String :=
  "error with configuration: " ++ error.message

/-- The wording of a database error. -/
def DatabaseError.message : DatabaseError → String
  | .input error => error.message
  | .refused attempts fault =>
    "connection refused after " ++ Decimal.natText attempts ++ " attempt(s): " ++ fault.message
  | .query fault => "query failed: " ++ fault.message
  | .connect error => "connect failed: " ++ addressMessage error
  | .result fault => "unexpected result: " ++ fault.message
  | .config error => "configuration error: " ++ error.message

/-- The connection was refused; the same operation may succeed later. -/
def DatabaseError.isTransient : DatabaseError → Bool
  | .refused _ _ => true
  | _ => false

end TableQuery

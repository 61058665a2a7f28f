import TableQuery.Address.Basic
import TableQuery.Config.Basic
import TableQuery.Database.Error

/-!
# Pools

A pool of connections is made from a configuration without connecting: only the address has to be
one. Connections are opened when statements need them.
-/

/-!
## Connection targets

What a client takes from the address of a database: where to connect, as whom, and how. Parameters
of the query override the other parts of the address, and unknown ones do not matter.
-/

namespace TableQuery

/-- How far a connection has to be encrypted. -/
inductive EncryptionMode where
  /-- Not at all. -/
  | disable
  /-- If the server insists. -/
  | allow
  /-- If the server can. -/
  | prefer
  /-- Always. -/
  | require
  /-- Always, with a certificate that an authority vouches for. -/
  | verifyAuthority
  /-- Always, with such a certificate for the very host. -/
  | verifyFull
  deriving DecidableEq, Repr

/-- The mode of a name, in any case. -/
def EncryptionMode.ofName? (name : String) : Option EncryptionMode :=
  match String.ofList (name.toList.map Char.toLower) with
  | "disable" => some .disable
  | "allow" => some .allow
  | "prefer" => some .prefer
  | "require" => some .require
  | "verify-ca" => some .verifyAuthority
  | "verify-full" => some .verifyFull
  | _ => none

/-- Where and how to connect. -/
structure Target where
  /-- The host. -/
  host : String := "localhost"
  /-- The port. -/
  port : UInt16 := 5432
  /-- The user, if one is named. -/
  user : Option String := none
  /-- The password, if there is one. -/
  password : Option String := none
  /-- The database, if one is named. -/
  database : Option String := none
  /-- The encryption. -/
  encryption : EncryptionMode := .prefer
  /-- Prepared statements that a connection keeps. -/
  statementCache : UInt64 := 100
  deriving DecidableEq, Repr, Inhabited

namespace Target

/-- Take a parameter of the query over. -/
def apply (t : Target) (name value : String) : Except AddressError Target :=
  match name with
  | "sslmode" | "ssl-mode" =>
    match EncryptionMode.ofName? value with
    | some mode => .ok { t with encryption := mode }
    | none => .error (.unknownMode value)
  | "statement-cache-capacity" =>
    match Decimal.readUnsigned? 64 value.toList with
    | some n => .ok { t with statementCache := UInt64.ofNat n }
    | none => .error .invalidNumber
  | "port" =>
    match Decimal.readUnsigned? 16 value.toList with
    | some n => .ok { t with port := UInt16.ofNat n }
    | none => .error .invalidNumber
  | "hostaddr" =>
    if isPlainIpv4 value.toList || isIpv6 value.toList then .ok { t with host := value }
    else .error .invalidIp
  | "host" => .ok { t with host := value }
  | "dbname" => .ok { t with database := some value }
  | "user" => .ok { t with user := some value }
  | "password" => .ok { t with password := some value }
  | _ => .ok t

/-- The decoded text of a part; an empty part is absent. -/
def part (cs : List Char) : Except AddressError (Option String) :=
  if cs.isEmpty then .ok none
  else
    match percentText? cs with
    | some s => .ok (some s)
    | none => .error .notText

/-- The target that an address names. -/
def ofAddress (a : Address) : Except AddressError Target := do
  let base : Target := {}
  let host := (← if a.host.take 3 = "%2F".toList || a.host.take 3 = "%2f".toList then part a.host
    else .ok (some (String.ofList a.host))).getD ""
  let target : Target :=
    { base with
      host := if host.isEmpty then base.host else host
      port := a.port.getD base.port
      user := ← part a.user
      password := ← part a.password
      database := ← part (a.path.dropWhile (· = '/')) }
  (queryPairs a.query).foldlM (fun t p => t.apply p.1 p.2) target

/-- Read the address of a database. -/
def parse (s : String) : Except AddressError Target := do
  ofAddress (← Address.parse s)

end Target

/-! ## Making a pool -/

/-- A pool of connections. -/
structure Pool where
  /-- Where and how its connections are opened. -/
  target : Target
  /-- Connections that may be open at the same time. -/
  maxConnections : UInt32
  /-- Connections that are open. -/
  size : Nat
  deriving DecidableEq, Repr

/-- The pool of a configuration. -/
def Pool.create (c : Config) : Except DatabaseError Pool :=
  match Target.parse c.databaseUrl with
  | .ok target => .ok ⟨target, c.maxConnections, 0⟩
  | .error e => .error (.connect e)

end TableQuery

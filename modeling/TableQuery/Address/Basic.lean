import TableQuery.Decimal.Basic
import TableQuery.Json.Basic
import TableQuery.Text.Basic

/-!
# Addresses

The address of a database is a URL: a scheme, a host with an optional user and port, a path and a
query. Blanks at both ends and line breaks anywhere do not count.
-/

/-!
## Address errors

Why the address of a database cannot be used.
-/

namespace TableQuery

/-- What is wrong with an address. -/
inductive AddressError where
  /-- It does not begin with a scheme. -/
  | relative
  /-- It has a user or a port, or a scheme that needs a host, but no host. -/
  | emptyHost
  /-- The port is no number of sixteen bits. -/
  | invalidPort
  /-- The host has a character that no host has. -/
  | invalidHost
  /-- The host looks like an IPv4 address and is none. -/
  | invalidIpv4
  /-- The host looks like an IPv6 address and is none. -/
  | invalidIpv6
  /-- A part does not decode to a text. -/
  | notText
  /-- A parameter that is a number is none. -/
  | invalidNumber
  /-- A parameter that is an IP address is none. -/
  | invalidIp
  /-- The mode of encryption is not known. -/
  | unknownMode (value : String)
  deriving DecidableEq, Repr

/-- The wording of an address error. -/
def AddressError.message : AddressError → String
  | .relative => "relative URL without a base"
  | .emptyHost => "empty host"
  | .invalidPort => "invalid port number"
  | .invalidHost => "invalid domain character"
  | .invalidIpv4 => "invalid IPv4 address"
  | .invalidIpv6 => "invalid IPv6 address"
  | .notText => "invalid utf-8 sequence"
  | .invalidNumber => "invalid digit found in string"
  | .invalidIp => "invalid IP address syntax"
  | .unknownMode value => "unknown value \"" ++ value ++ "\" for sslmode"

/-!
## Percent signs in addresses

Bytes that an address writes as a percent sign and two hexadecimal digits, and the names and values
of its query.
-/

/-- The byte that two hexadecimal digits write. -/
def hexByte? (high low : Char) : Option UInt8 := do
  let h ← Json.hexValue? high
  let l ← Json.hexValue? low
  return UInt8.ofNat (16 * h + l)

/-- The bytes of a text in UTF-8, written bytes decoded. A percent sign that no two hexadecimal
digits follow stands for itself. -/
def percentDecoded : List Char → List UInt8
  | [] => []
  | '%' :: high :: low :: rest =>
    match hexByte? high low with
    | some b => b :: percentDecoded rest
    | none => '%'.toUInt8 :: percentDecoded (high :: low :: rest)
  | c :: rest => (String.singleton c).toUTF8.toList ++ percentDecoded rest

/-- The decoded text, if the bytes are one. -/
def percentText? (cs : List Char) : Option String :=
  String.fromUTF8? ⟨(percentDecoded cs).toArray⟩

/-- A name or value of a query. A plus sign is a blank, and bytes that are no text are replaced. -/
def queryText (cs : List Char) : String :=
  (percentText? (cs.map fun c => if c = '+' then ' ' else c)).getD "\uFFFD"

/-- The names and values of a query, in order. Empty parts are left out. -/
def queryPairs (cs : List Char) : List (String × String) :=
  ((Text.splitAt '&' cs).filter fun part => !part.isEmpty).map fun part =>
    match Text.cutAt ['='] part with
    | some (name, value) => (queryText name, queryText value)
    | none => (queryText part, "")

/-!
## Hosts

The host of an address: a name, an IPv4 address or an IPv6 address in brackets. Only a few schemes
of the web know IPv4 addresses and demand a host.
-/

/-- Read a number of an IPv4 address in its plain form: at most 255, no leading zeros. -/
def octet? (cs : List Char) : Option Nat :=
  if Decimal.isDigits cs && cs.length ≤ 3 && Decimal.value cs ≤ 255 &&
      (cs.length = 1 || cs.head? != some '0') then some (Decimal.value cs)
  else none

/-- The text is an IPv4 address in its plain form, four numbers with points between them. -/
def isPlainIpv4 (cs : List Char) : Bool :=
  let parts := Text.splitAt '.' cs
  parts.length = 4 && parts.all fun part => (octet? part).isSome

/-- A group of an IPv6 address: up to four hexadecimal digits. -/
def isIpv6Group (cs : List Char) : Bool :=
  !cs.isEmpty && cs.length ≤ 4 && cs.all fun c => (Json.hexValue? c).isSome

/-- How many groups the parts between colons count for. Only the last part may be an IPv4 address,
which counts for two. -/
def ipv6Length? (mayEndInIpv4 : Bool) : List (List Char) → Option Nat
  | [] => some 0
  | [part] =>
    if isIpv6Group part then some 1
    else if mayEndInIpv4 && isPlainIpv4 part then some 2
    else none
  | part :: rest =>
    if isIpv6Group part then (ipv6Length? mayEndInIpv4 rest).map (· + 1) else none

/-- The groups of a run of an IPv6 address; the empty text has none. -/
def ipv6Groups (cs : List Char) : List (List Char) :=
  if cs.isEmpty then [] else Text.splitAt ':' cs

/-- The text is an IPv6 address: eight groups, or fewer with one double colon for the others. -/
def isIpv6 (cs : List Char) : Bool :=
  match Text.cutAt "::".toList cs with
  | none => ipv6Length? true (ipv6Groups cs) == some 8
  | some (front, back) =>
    match ipv6Length? false (ipv6Groups front), ipv6Length? true (ipv6Groups back) with
    | some n, some m => n + m ≤ 7
    | _, _ => false

/-- What a scheme demands of its hosts. -/
inductive SchemeKind where
  /-- Nothing. -/
  | plain
  /-- The scheme is of the web: there is a host, and numbers are IPv4 addresses. -/
  | web
  /-- The scheme is of files: there may be a host. -/
  | file
  deriving DecidableEq, Repr

/-- What the scheme of a name demands. -/
def SchemeKind.ofName (name : String) : SchemeKind :=
  if ["http", "https", "ws", "wss", "ftp"].contains name then .web
  else if name = "file" then .file
  else .plain

/-- Characters that no host has. -/
def forbiddenHostChars : List Char :=
  ['\x00', '\t', '\n', '\r', ' ', '#', '/', ':', '<', '>', '?', '@', '[', '\\', ']', '^', '|']

/-- A character that a host of the web cannot have either. -/
def isForbiddenWebChar (c : Char) : Bool :=
  c.toNat < 0x20 || c.toNat = 0x7F || c = '%' || forbiddenHostChars.contains c

/-- Read a number of a web address, in octal behind `0` and in hexadecimal behind `0x`. -/
def webNumber? (cs : List Char) : Option Nat :=
  let inBase (base : Nat) (ds : List Char) : Option Nat :=
    if ds.all fun c => ((Json.hexValue? c).filter (· < base)).isSome then
      some (ds.foldl (fun n c => n * base + (Json.hexValue? c).getD 0) 0)
    else none
  match cs with
  | [] => none
  | '0' :: 'x' :: ds | '0' :: 'X' :: ds => inBase 16 ds
  | ['0'] => some 0
  | '0' :: ds => inBase 8 ds
  | ds => inBase 10 ds

/-- The parts of a web host; a point at the end does not count. -/
def webParts (cs : List Char) : List (List Char) :=
  let parts := Text.splitAt '.' cs
  if 1 < parts.length && parts.getLast? = some [] then parts.dropLast else parts

/-- The last part of a web host is a number, so that the host has to be an IPv4 address. -/
def endsInNumber (cs : List Char) : Bool :=
  match (webParts cs).getLast? with
  | some part => Decimal.isDigits part ||
      (["0x".toList, "0X".toList].contains (part.take 2) && (webNumber? part).isSome)
  | none => false

/-- The host is an IPv4 address: at most four numbers, the last one filling the places left. -/
def isWebIpv4 (cs : List Char) : Bool :=
  match (webParts cs).mapM webNumber? with
  | none => false
  | some numbers =>
    numbers.length ≤ 4 && numbers.dropLast.all (· ≤ 255) &&
      (numbers.getLast?.getD 0) < Nat.pow 256 (5 - numbers.length)

/-- Check a host that a scheme of the web needs, percent signs decoded. -/
def checkWebHost (cs : List Char) : Except AddressError Unit :=
  match percentText? cs with
  | none => .error .invalidHost
  | some decoded =>
    let ds := decoded.toList
    if ds.isEmpty then .error .emptyHost
    else if ds.any isForbiddenWebChar then .error .invalidHost
    else if endsInNumber ds && !isWebIpv4 ds then .error .invalidIpv4
    else .ok ()

/-- Check a host. -/
def checkHost (kind : SchemeKind) (cs : List Char) : Except AddressError Unit :=
  match cs with
  | '[' :: _ =>
    if ((Text.between? '[' ']' cs).map isIpv6).getD false then .ok () else .error .invalidIpv6
  | _ =>
    match kind with
    | .plain => if cs.any forbiddenHostChars.contains then .error .invalidHost else .ok ()
    | .web => checkWebHost cs
    | .file => if cs.isEmpty then .ok () else checkWebHost cs

/-! ## Parts of an address -/

/-- The parts of an address as they are written, percent signs not decoded. -/
structure Address where
  /-- The scheme, in lower case. -/
  scheme : String
  /-- The user. -/
  user : List Char := []
  /-- The password. -/
  password : List Char := []
  /-- The host. -/
  host : List Char := []
  /-- The port. -/
  port : Option UInt16 := none
  /-- The path. -/
  path : List Char := []
  /-- The query. -/
  query : List Char := []
  deriving Repr, Inhabited

namespace Address

/-- A character of a scheme. -/
def isSchemeChar (c : Char) : Bool :=
  c.isAlphanum || c = '+' || c = '-' || c = '.'

/-- Scheme, in lower case, and the text behind its colon. -/
def scheme? (cs : List Char) : Option (String × List Char) :=
  match cs.takeWhile isSchemeChar, cs.dropWhile isSchemeChar with
  | c :: name, ':' :: rest =>
    if c.isAlpha then some (String.ofList ((c :: name).map Char.toLower), rest) else none
  | _, _ => none

/-- The address without what does not count. -/
def significant (s : String) : List Char :=
  let outer := s.toList.dropWhile fun c => c.toNat ≤ 0x20
  let inner := (outer.reverse.dropWhile fun c => c.toNat ≤ 0x20).reverse
  inner.filter fun c => c != '\t' && c != '\n' && c != '\r'

/-- Path and query of a text; a fragment does not count. -/
def pathAndQuery (cs : List Char) : List Char × List Char :=
  let body := cs.takeWhile (· != '#')
  match Text.cutAt ['?'] body with
  | some (path, query) => (path, query)
  | none => (body, [])

/-- The character ends the part of an address that names its host. -/
def endsAuthority (kind : SchemeKind) (c : Char) : Bool :=
  c = '/' || c = '?' || c = '#' || (c = '\\' && kind != .plain)

/-- User, password and the rest of an authority, which the last `@` cuts off. -/
def userInfo (cs : List Char) : Option (List Char) × List Char :=
  match Text.cutAt ['@'] cs.reverse with
  | some (host, user) => (some user.reverse, host.reverse)
  | none => (none, cs)

/-- The host up to the colon of its port; colons in brackets belong to the host. -/
def hostLength (inBrackets : Bool) : List Char → Nat
  | [] => 0
  | c :: cs =>
    if c = ':' && !inBrackets then 0
    else hostLength (if c = '[' then true else if c = ']' then false else inBrackets) cs + 1

/-- Read a port; no digits are no port. A scheme of the plain kind may put a backslash behind it. -/
def port? (cs : List Char) : Except AddressError (Option UInt16) :=
  let digits := cs.takeWhile Char.isDigit
  match cs.dropWhile Char.isDigit with
  | [] | '\\' :: _ =>
    if digits.isEmpty then .ok none
    else if Decimal.value digits < UInt16.size then .ok (some (UInt16.ofNat (Decimal.value digits)))
    else .error .invalidPort
  | _ => .error .invalidPort

/-- Read what stands behind `//`. -/
def readAuthority (scheme : String) (kind : SchemeKind) (cs : List Char) :
    Except AddressError Address := do
  let authority := cs.takeWhile fun c => !endsAuthority kind c
  let rest := cs.dropWhile fun c => !endsAuthority kind c
  let (info, place) := userInfo authority
  let (user, password) := match info with
    | none => ([], [])
    | some u => (Text.cutAt [':'] u).getD (u, [])
  if info = some [] && place.isEmpty && !rest.isEmpty then throw .emptyHost
  let host := place.take (hostLength false place)
  let behind := place.drop (hostLength false place)
  if host.isEmpty && kind = .web then throw .emptyHost
  checkHost kind host
  if host.isEmpty && !behind.isEmpty then throw .emptyHost
  let port ← port? behind.tail
  if host.isEmpty && !(user.isEmpty && password.isEmpty) then throw .emptyHost
  let (path, query) := pathAndQuery rest
  return { scheme, user, password, host, port, path, query }

/-- Read an address. -/
def parse (s : String) : Except AddressError Address := do
  match scheme? (significant s) with
  | none => throw .relative
  | some (scheme, rest) =>
    let kind := SchemeKind.ofName scheme
    match kind, rest with
    | .web, _ => readAuthority scheme kind (rest.dropWhile fun c => c = '/' || c = '\\')
    | _, '/' :: '/' :: behind => readAuthority scheme kind behind
    | _, _ =>
      let (path, query) := pathAndQuery rest
      return { scheme, path, query }

end Address

end TableQuery

import TableQuery.Binary64.Basic
import TableQuery.Calendar.WallClock
import TableQuery.Text.Basic
import TableQuery.Toml.Basic

/-!
# TOML scalars

Reads the values that are written without quotes and brackets: truth values, integers, numbers with
fraction or exponent, dates and times.
-/

namespace TableQuery.Toml

open TableQuery.Decimal TableQuery.Text

/-- The digits of a number, without the single underscores that may stand between them. -/
def plainDigits? (isDigit : Char → Bool) (cs : List Char) : Option (List Char) :=
  let groups := splitAt '_' cs
  if groups.all fun g => !g.isEmpty && g.all isDigit then some groups.flatten else none

/-- The digits of a whole number, which begins with a zero only if it is zero. -/
def wholeDigits? (cs : List Char) : Option (List Char) := do
  let ds ← plainDigits? Char.isDigit cs
  match ds with
  | '0' :: _ :: _ => none
  | _ => some ds

/-- The value of a digit in any base up to 16. -/
def digitValue (c : Char) : Nat :=
  if c.isDigit then c.toNat - 48 else c.toLower.toNat - 87

/-- The value of digits in a base. -/
def valueInBase (base : Nat) (ds : List Char) : Nat :=
  ds.foldl (fun n c => n * base + digitValue c) 0

/-- The integer, if it fits a signed word of 64 bits. -/
def fitting? (n : Int) : Option Int :=
  if -0x8000000000000000 ≤ n && n < 0x8000000000000000 then some n else none

/-- Read an integer, decimal with an optional sign or in another base without one. -/
def integer? (cs : List Char) : Option Int :=
  match cs with
  | '0' :: 'x' :: rest => do
    let ds ← plainDigits? (fun c => c.isDigit || ('a' ≤ c.toLower && c.toLower ≤ 'f')) rest
    fitting? (valueInBase 16 ds)
  | '0' :: 'o' :: rest => do
    fitting? (valueInBase 8 (← plainDigits? (fun c => '0' ≤ c && c ≤ '7') rest))
  | '0' :: 'b' :: rest => do
    fitting? (valueInBase 2 (← plainDigits? (fun c => c = '0' || c = '1') rest))
  | _ => do
    let (negative, body) := takeSign cs
    let n : Nat := value (← wholeDigits? body)
    fitting? (if negative then -(n : Int) else n)

/-- The text is a whole part, then a fraction, an exponent or both. -/
def isFloatBody (body : List Char) : Bool :=
  let whole := body.takeWhile fun c => c.isDigit || c = '_'
  let rest := body.dropWhile fun c => c.isDigit || c = '_'
  let isExponent (e : List Char) : Bool :=
    match e with
    | c :: ds => (c = 'e' || c = 'E') && (plainDigits? Char.isDigit (takeSign ds).2).isSome
    | [] => false
  (wholeDigits? whole).isSome &&
    match rest with
    | '.' :: after =>
      let fraction := after.takeWhile fun c => c.isDigit || c = '_'
      let tail := after.dropWhile fun c => c.isDigit || c = '_'
      (plainDigits? Char.isDigit fraction).isSome && (tail.isEmpty || isExponent tail)
    | _ => isExponent rest

/-- The text is a number with a fraction or exponent that does not overflow, or the name of an
infinity or of no number. -/
def isFloat (cs : List Char) : Bool :=
  let body := (takeSign cs).2
  if body = "inf".toList || body = "nan".toList then true
  else
    isFloatBody body &&
      match Binary64.read? (cs.filter (· ≠ '_')) with
      | some x => x != Binary64.infinity false
      | none => false

/-- A number of exactly so many digits. -/
def fixedDigits? (count : Nat) (cs : List Char) : Option Nat :=
  if cs.length = count && isDigits cs then some (value cs) else none

/-- The text is a date that exists. -/
def isDate (cs : List Char) : Bool :=
  match splitAt '-' cs with
  | [y, m, d] =>
    match fixedDigits? 4 y, fixedDigits? 2 m, fixedDigits? 2 d with
    | some year, some month, some day =>
      1 ≤ month && month ≤ 12 && 1 ≤ day && day ≤ Date.monthLength year month
    | _, _, _ => false
  | _ => false

/-- The text is a time of day to the second, with an optional fraction. -/
def isTime (cs : List Char) : Bool :=
  match splitAt ':' cs with
  | [h, m, rest] =>
    let fraction := rest.drop 2
    match fixedDigits? 2 h, fixedDigits? 2 m, fixedDigits? 2 (rest.take 2) with
    | some hour, some minute, some second =>
      hour ≤ 23 && minute ≤ 59 && second ≤ 60 &&
        match fraction with
        | [] => true
        | c :: ds => c = '.' && isDigits ds
    | _, _, _ => false
  | _ => false

/-- The text is a distance from UTC in hours and minutes. -/
def isOffset (cs : List Char) : Bool :=
  match splitAt ':' cs with
  | [h, m] =>
    match fixedDigits? 2 h, fixedDigits? 2 m with
    | some hour, some minute => hour ≤ 23 && minute ≤ 59
    | _, _ => false
  | _ => false

/-- The text is a time of day with an optional distance from UTC. -/
def isZonedTime (cs : List Char) : Bool :=
  let time := cs.takeWhile fun c => c.isDigit || c = ':' || c = '.'
  match cs.dropWhile fun c => c.isDigit || c = ':' || c = '.' with
  | [] => isTime time
  | [c] => isTime time && (c = 'Z' || c = 'z')
  | c :: offset => isTime time && (c = '+' || c = '-') && isOffset offset

/-- The text is a date, a time of day, or a date and a time. -/
def isDateTime (cs : List Char) : Bool :=
  isTime cs || isDate cs ||
    (isDate (cs.take 10) &&
      match cs.drop 10 with
      | c :: time => (c = 'T' || c = 't' || c = ' ') && isZonedTime time
      | [] => false)

/-- Read a value that is written without quotes and brackets. -/
def scalar? (cs : List Char) : Option Toml :=
  let written := String.ofList cs
  if written = "true" then some (.boolean true)
  else if written = "false" then some (.boolean false)
  else
    match integer? cs with
    | some n => some (.integer n)
    | none =>
      if isFloat cs then some (.float written)
      else if isDateTime cs then some (.dateTime written)
      else none

end TableQuery.Toml

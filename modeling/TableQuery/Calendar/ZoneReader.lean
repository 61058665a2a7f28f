import TableQuery.Calendar.RuleTable
import TableQuery.Calendar.Zone
import TableQuery.Calendar.ZoneTable
import TableQuery.Decimal.Basic
import TableQuery.Text.Basic

/-!
# Finding zones by name

Reads the written eras and rules of the zone tables. Names are exact: case matters, and an alias
keeps its own name.
-/

namespace TableQuery.ZoneReader

open TableQuery.Text TableQuery.Decimal

/-- The months as the tables write them. -/
def monthNames : List String :=
  ["Jan", "Feb", "Mar", "Apr", "May", "Jun", "Jul", "Aug", "Sep", "Oct", "Nov", "Dec"]

/-- The weekdays as the tables write them, from Sunday. -/
def weekdayNames : List String :=
  ["Sun", "Mon", "Tue", "Wed", "Thu", "Fri", "Sat"]

/-- A month by its name, from 1. -/
def month? (cs : List Char) : Option Nat :=
  (monthNames.idxOf? (String.ofList cs)).map (· + 1)

/-- A weekday by its name, from 0. -/
def weekday? (cs : List Char) : Option Nat :=
  weekdayNames.idxOf? (String.ofList cs)

/-- A day of a month: a number, `lastSun`, `Sun>=8` or `Sun<=25`. -/
def day? (cs : List Char) : Option DayOfMonth :=
  if isDigits cs then some (.on (value cs))
  else if "last".toList.isPrefixOf cs then (weekday? (cs.drop 4)).map .last
  else
    match cutAt ['>', '='] cs, cutAt ['<', '='] cs with
    | some (name, number), _ => do
      if isDigits number then some (.onOrAfter (← weekday? name) (value number)) else none
    | none, some (name, number) => do
      if isDigits number then some (.onOrBefore (← weekday? name) (value number)) else none
    | none, none => none

/-- Hours with optional minutes and seconds, as seconds. A leading minus sign counts for all. -/
def duration? (cs : List Char) : Option Int :=
  let (negative, body) := match cs with
    | '-' :: rest => (true, rest)
    | _ => (false, cs)
  let parts := splitAt ':' body
  if parts.all isDigits then
    let total : Option Nat := match parts.map value with
      | [h] => some (h * 3600)
      | [h, m] => some (h * 3600 + m * 60)
      | [h, m, s] => some (h * 3600 + m * 60 + s)
      | _ => none
    total.map fun t => if negative then -(t : Int) else (t : Int)
  else none

/-- A time of day and the clock that it is measured by. -/
def clockTime? (cs : List Char) : Option (Int × ClockKind) :=
  match cs.reverse with
  | 's' :: rest => (duration? rest.reverse).map (·, .standard)
  | 'u' :: rest => (duration? rest.reverse).map (·, .universal)
  | _ => (duration? cs).map (·, .wall)

/-- A moment from its words month, day and time, the later ones optional. -/
def moment? : List (List Char) → Option YearlyMoment
  | [] => some ⟨1, .on 1, 0, .wall⟩
  | [m] => do some ⟨← month? m, .on 1, 0, .wall⟩
  | [m, d] => do some ⟨← month? m, ← day? d, 0, .wall⟩
  | [m, d, t] => do
    let (time, clock) ← clockTime? t
    some ⟨← month? m, ← day? d, time, clock⟩
  | _ => none

/-- A rule from its words. -/
def rule? : List (List Char) → Option SavingRule
  | [first, last, m, d, t, saving] => do
    let final : Int := if last = "max".toList then lastRuleYear else value last
    some ⟨value first, final, ← moment? [m, d, t], ← duration? saving⟩
  | _ => none

/-- The records of a table entry, each as its words. -/
def records (lines : List String) : List (List (List Char)) :=
  (lines.flatMap fun line => splitAt ';' line.toList).map words

/-- A named set of rules. -/
def rules? (name : String) : Option (List SavingRule) := do
  (records (← ruleTable.lookup name)).mapM rule?

/-- The saving of an era: a hyphen, an amount or a set of rules. -/
def saving? (word : List Char) : Option EraSaving :=
  if word = ['-'] then some (.fixed 0)
  else
    match duration? word with
    | some seconds => some (.fixed seconds)
    | none => (rules? (String.ofList word)).map .rules

/-- An era from its words. -/
def era? : List (List Char) → Option ZoneEra
  | [offset, saving] => do some ⟨← duration? offset, ← saving? saving, none⟩
  | offset :: saving :: year :: moment => do
    some ⟨← duration? offset, ← saving? saving, some (value year, ← moment? moment)⟩
  | _ => none

/-- The eras of a zone that is not an alias. -/
def eras? (name : String) : Option (List ZoneEra) := do
  (records (← zoneTable.lookup name)).mapM era?

end TableQuery.ZoneReader

namespace TableQuery.TimeZone

/-- The zone with this exact name, an alias or a zone of its own. -/
def find? (name : String) : Option TimeZone :=
  let target := (zoneAliases.lookup name).getD name
  (ZoneReader.eras? target).map (ofEras name)

end TableQuery.TimeZone

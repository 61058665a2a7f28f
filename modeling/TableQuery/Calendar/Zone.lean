import TableQuery.Calendar.WallClock

/-!
# Time zones

A zone is a sequence of eras, each with an offset from UTC and either a fixed saving or recurring
saving rules. A zone is unfolded into the list of moments at which its offset changes; rules that
never end are followed up to the year 2099.
-/

namespace TableQuery

/-- Which day of a month is meant. -/
inductive DayOfMonth where
  /-- The day with this number. -/
  | on (day : Nat)
  /-- The last such weekday of the month. -/
  | last (weekday : Nat)
  /-- The first such weekday on or after a day. -/
  | onOrAfter (weekday day : Nat)
  /-- The last such weekday on or before a day. -/
  | onOrBefore (weekday day : Nat)
  deriving DecidableEq, Repr

/-- What a time of day is measured by. -/
inductive ClockKind where
  /-- Local time with any saving. -/
  | wall
  /-- Local time without saving. -/
  | standard
  /-- Universal time. -/
  | universal
  deriving DecidableEq, Repr

/-- A moment that recurs in years. -/
structure YearlyMoment where
  /-- The month, from 1. -/
  month : Nat
  /-- The day of the month. -/
  day : DayOfMonth
  /-- Seconds after the day's midnight. -/
  time : Int
  /-- The clock that the time is measured by. -/
  clock : ClockKind
  deriving DecidableEq, Repr

/-- A saving that begins at the same moment in a range of years. -/
structure SavingRule where
  /-- First year of the rule. -/
  first : Int
  /-- Last year of the rule. -/
  last : Int
  /-- When in the year the saving begins. -/
  moment : YearlyMoment
  /-- Seconds that are added to standard time from then on. -/
  saving : Int
  deriving DecidableEq, Repr

/-- How an era saves daylight. -/
inductive EraSaving where
  /-- The same saving all the time, mostly none. -/
  | fixed (seconds : Int)
  /-- Savings begin by rules. -/
  | rules (rules : List SavingRule)
  deriving Repr

/-- A time during which a zone keeps one standard offset and one way of saving. -/
structure ZoneEra where
  /-- Seconds that standard time is ahead of UTC. -/
  offset : Int
  /-- The savings of the era. -/
  saving : EraSaving
  /-- When the era ends; the last era does not end. -/
  finish : Option (Int × YearlyMoment)
  deriving Repr

/-- From a UTC second on, a zone has a new offset. -/
structure OffsetChange where
  /-- First UTC second with the offset. -/
  second : Int
  /-- Seconds that local time is ahead of UTC. -/
  offset : Int
  deriving DecidableEq, Repr

/-- A zone by its name, its first offset and all changes of its offset. -/
structure TimeZone where
  /-- The name that the zone is asked for by. -/
  name : String
  /-- The offset before the first change. -/
  initial : Int
  /-- The changes of the offset, in order. -/
  changes : List OffsetChange
  deriving DecidableEq, Repr

namespace DayOfMonth

/-- The number of days from one weekday on to the next day that is another weekday. -/
def daysUntil (fromDay toDay : Nat) : Nat :=
  (toDay + 7 - fromDay) % 7

/-- The date meant in a month of a year. It may fall into a neighbouring month. -/
def date (spec : DayOfMonth) (year : Int) (month : Nat) : Date :=
  match spec with
  | .on day => Date.ofFields ⟨year, month, day⟩
  | .last weekday =>
    let final := Date.ofFields ⟨year, month, Date.monthLength year month⟩
    ⟨final.days - daysUntil weekday final.weekday⟩
  | .onOrAfter weekday day =>
    let first := Date.ofFields ⟨year, month, day⟩
    ⟨first.days + daysUntil first.weekday weekday⟩
  | .onOrBefore weekday day =>
    let final := Date.ofFields ⟨year, month, day⟩
    ⟨final.days - daysUntil weekday final.weekday⟩

end DayOfMonth

/-- The second that the moment's own clock shows in a year. -/
def YearlyMoment.localSecond (m : YearlyMoment) (year : Int) : Int :=
  (m.day.date year m.month).days * WallClock.daySeconds + m.time

/-- The UTC second of the moment in a year, under an offset and a saving. -/
def YearlyMoment.utcSecond (m : YearlyMoment) (year offset saving : Int) : Int :=
  m.localSecond year -
    match m.clock with
    | .wall => offset + saving
    | .standard => offset
    | .universal => 0

/-- One beginning of a saving: the year and the rule. -/
structure SavingStart where
  /-- The year of the beginning. -/
  year : Int
  /-- The rule that begins. -/
  rule : SavingRule

/-- First year in which rules are followed. -/
def firstRuleYear : Int := 1800

/-- Last year in which rules are followed; the offset at its end is kept. -/
def lastRuleYear : Int := 2099

/-- The beginnings of one rule, year by year. -/
def SavingRule.starts (r : SavingRule) : List SavingStart :=
  let first := max r.first firstRuleYear
  let count := (min r.last lastRuleYear - first + 1).toNat
  (List.range count).map fun (i : Nat) => ⟨first + i, r⟩

/-- All beginnings of a list of rules in the order of their clocks. -/
def savingStarts (rules : List SavingRule) : List SavingStart :=
  (rules.flatMap SavingRule.starts).mergeSort fun a b =>
    a.rule.moment.localSecond a.year ≤ b.rule.moment.localSecond b.year

/-- What an era with rules has come to while its beginnings are followed. -/
structure EraProgress where
  /-- The saving in force. -/
  saving : Int
  /-- The saving in force when the era began. -/
  initial : Int
  /-- The changes within the era, latest first. -/
  changes : List OffsetChange

/-- The UTC second at which an era ends, under the saving in force. -/
def ZoneEra.finishSecond (era : ZoneEra) (saving : Int) : Option Int :=
  era.finish.map fun (year, moment) => moment.utcSecond year era.offset saving

/-- Follow the beginnings of savings up to the end of an era. Those before the era only decide the
saving that it begins with. -/
def ZoneEra.follow (era : ZoneEra) (start : Option Int) :
    EraProgress → List SavingStart → EraProgress
  | progress, [] => progress
  | progress, s :: rest =>
    let second := s.rule.moment.utcSecond s.year era.offset progress.saving
    let finished : Bool := match era.finishSecond progress.saving with
      | some finish => decide (finish ≤ second)
      | none => false
    if finished then progress
    else
      let early : Bool := match start with
        | some first => decide (second < first)
        | none => false
      if early then era.follow start ⟨s.rule.saving, s.rule.saving, progress.changes⟩ rest
      else
        let change : OffsetChange := ⟨second, era.offset + s.rule.saving⟩
        era.follow start ⟨s.rule.saving, progress.initial, change :: progress.changes⟩ rest

/-- The changes of one era, its own beginning included, and the saving in force at its end. -/
def ZoneEra.changes (era : ZoneEra) (start : Option Int) : List OffsetChange × Int :=
  let begin (saving : Int) : List OffsetChange :=
    match start with
    | some first => [⟨first, era.offset + saving⟩]
    | none => []
  match era.saving with
  | .fixed saving => (begin saving, saving)
  | .rules rules =>
    let progress := era.follow start ⟨0, 0, []⟩ (savingStarts rules)
    (begin progress.initial ++ progress.changes.reverse, progress.saving)

/-- The changes of a sequence of eras, the first of which begins at `start`. -/
def eraChanges (start : Option Int) : List ZoneEra → List OffsetChange
  | [] => []
  | era :: rest =>
    let (changes, saving) := era.changes start
    match era.finishSecond saving with
    | some finish => changes ++ eraChanges (some finish) rest
    | none => changes

/-- Drop the changes that no clock shows. If a clock has not passed the local time of one change
when the next is due, the offset of the next holds from the first change on. -/
def settleFrom (before : Int) (current : OffsetChange) : List OffsetChange → List OffsetChange
  | [] => [current]
  | next :: rest =>
    if next.second + current.offset ≤ current.second + before then
      settleFrom before ⟨current.second, next.offset⟩ rest
    else current :: settleFrom current.offset next rest

/-- The changes that clocks show, given the offset before all of them. -/
def settle (initial : Int) : List OffsetChange → List OffsetChange
  | [] => []
  | first :: rest => settleFrom initial first rest

/-- The zone with these eras. Before all changes it keeps the first era's own offset. -/
def TimeZone.ofEras (name : String) (eras : List ZoneEra) : TimeZone :=
  let initial := match eras with
    | [] => 0
    | era :: _ =>
      era.offset + match era.saving with
        | .fixed saving => saving
        | .rules _ => 0
  ⟨name, initial, settle initial (eraChanges none eras)⟩

/-- The offset after the changes up to a UTC second. -/
def offsetAfter (second : Int) : Int → List OffsetChange → Int
  | offset, [] => offset
  | offset, change :: rest =>
    if change.second ≤ second then offsetAfter second change.offset rest
    else offset

/-- Seconds that local time is ahead of UTC at an instant. -/
def TimeZone.offsetAt (zone : TimeZone) (i : Instant) : Int :=
  offsetAfter i.utc.seconds zone.initial zone.changes

/-- What a clock in the zone shows at an instant. -/
def TimeZone.localTime (zone : TimeZone) (i : Instant) : WallClock :=
  i.utc.advance (zone.offsetAt i)

end TableQuery

import Mathlib.Data.List.Chain
import TableQuery.Proofs.Wire.WrittenTime

/-!
# Intervals in the server's style

The server prints the years, months and days that are not zero and then the time, each with a sign
of its own. A field that is not negative has a plus sign where it stands directly behind a negative
one. The text of an interval is that of the server without its plus signs. So the two agree exactly
where no field that is not negative stands directly behind a negative one.
-/

namespace TableQuery

open TableQuery.Text

/-- A field of the server's text. -/
structure IntervalField where
  /-- The field is negative. -/
  negative : Bool
  /-- The text of its magnitude. -/
  body : String
  deriving DecidableEq, Repr

namespace IntervalField

/-- The server's sign of a field, which depends on the field before it. -/
def sign (behindNegative : Bool) (f : IntervalField) : String :=
  if f.negative then "-" else if behindNegative then "+" else ""

/-- The fields as the server prints them. -/
def printed (behindNegative : Bool) : List IntervalField → List String
  | [] => []
  | f :: fields => (f.sign behindNegative ++ f.body) :: printed f.negative fields

/-- The field without a plus sign. -/
def unmarked (f : IntervalField) : String :=
  f.sign false ++ f.body

/-- A field that stands behind another one needs no plus sign. -/
def Unmarked (before after : IntervalField) : Prop :=
  before.negative = true → after.negative = true

end IntervalField

namespace Interval

/-- A count as a field, unless it is zero; only the count one has the singular. -/
def serverCount (n : Int) (unit : String) : List IntervalField :=
  if n = 0 then []
  else [⟨n < 0, Decimal.natText n.natAbs ++ " " ++ unit ++ if n = 1 then "" else "s"⟩]

/-- The time of a number of microseconds: hours of at least two digits, minutes, seconds, and the
fraction without its closing zeros. -/
def serverClock (micros : Nat) : String :=
  let fraction := micros % 1000000
  String.ofList (Decimal.padded 2 (micros / 3600000000) ++ ':' ::
    Decimal.padded 2 (micros / 60000000 % 60) ++ ':' :: Decimal.padded 2 (micros / 1000000 % 60) ++
    if fraction = 0 then [] else '.' :: (Decimal.padded 6 fraction).rdropWhile (· = '0'))

/-- The time as a field. -/
def serverTime (micros : Int) : IntervalField :=
  ⟨micros < 0, serverClock micros.natAbs⟩

/-- The years, months and days that are not zero. -/
def serverDate (i : Interval) : List IntervalField :=
  serverCount (i.months.toInt.tdiv 12) "year" ++ serverCount (i.months.toInt.tmod 12) "mon" ++
    serverCount i.days.toInt "day"

/-- The fields of an interval. The time stands there if it is not zero or nothing else does. -/
def serverFields (i : Interval) : List IntervalField :=
  if i.microseconds ≠ 0 ∨ i.serverDate = [] then
    i.serverDate ++ [serverTime i.microseconds.toInt]
  else i.serverDate

/-- The text of an interval in the server's default style. -/
def serverText (i : Interval) : String :=
  Text.join " " (IntervalField.printed false i.serverFields)

/-- A count is written as the server's field. -/
theorem map_unmarked_serverCount (n : Int) (unit : String) :
    (serverCount n unit).map IntervalField.unmarked = if n = 0 then [] else [counted n unit] := by
  rw [serverCount]
  split
  · rfl
  · have hsign : ∀ body, IntervalField.unmarked ⟨decide (n < 0), body⟩ =
        (if n < 0 then "-" else "") ++ body := by
      intro body
      simp [IntervalField.unmarked, IntervalField.sign]
    rw [List.map_singleton, hsign, counted, Decimal.intText_eq]
    simp only [String.append_assoc]

/-- The clock shows hours, minutes and seconds of the whole seconds. -/
theorem serverClock_eq (micros : Nat) :
    serverClock micros = String.ofList (Decimal.padded 2 (micros / microsPerSecond / 3600) ++
      ':' :: Decimal.padded 2 (micros / microsPerSecond / 60 % 60) ++
      ':' :: Decimal.padded 2 (micros / microsPerSecond % 60) ++
      fractionChars (micros % microsPerSecond)) := by
  have hhours : micros / 3600000000 = micros / microsPerSecond / 3600 := by
    rw [Nat.div_div_eq_div_mul]
    rfl
  have hminutes : micros / 60000000 = micros / microsPerSecond / 60 := by
    rw [Nat.div_div_eq_div_mul]
    rfl
  rw [serverClock, hhours, hminutes]
  rfl

/-- The time is written as the server's field. -/
theorem timeText_eq (micros : Int) : timeText micros = (serverTime micros).unmarked := by
  have hsign : (serverTime micros).unmarked =
      (if micros < 0 then "-" else "") ++ serverClock micros.natAbs := by
    simp [IntervalField.unmarked, IntervalField.sign, serverTime]
  rw [hsign, serverClock_eq]
  rfl

/-- The date is written as the server's fields. -/
theorem dateParts_eq_unmarked (i : Interval) :
    i.dateParts = i.serverDate.map IntervalField.unmarked := by
  rw [serverDate, List.map_append, List.map_append, map_unmarked_serverCount,
    map_unmarked_serverCount, map_unmarked_serverCount, dateParts]
  simp only [← Int32.toInt_inj, Int32.toInt_zero]
  rfl

/-- The parts of an interval are the server's fields without plus signs. -/
theorem parts_eq_unmarked (i : Interval) :
    i.parts = i.serverFields.map IntervalField.unmarked := by
  rw [parts, serverFields, dateParts_eq_unmarked]
  by_cases htime : i.microseconds = 0
  · by_cases hdate : i.serverDate = []
    · simp [htime, hdate, timeText_eq]
    · simp [htime, hdate]
  · simp [htime, timeText_eq]

/-- A count holds no plus sign. -/
theorem plus_notMem_serverCount (n : Int) {unit : String} (hunit : '+' ∉ unit.toList) :
    ∀ f ∈ serverCount n unit, '+' ∉ f.body.toList := by
  have hdigits : '+' ∉ Decimal.digits n.natAbs :=
    Decimal.notMem_of_isDigit (fun _ => Decimal.isDigit_of_mem_digits) (by decide)
  have hplural : '+' ∉ (if n = 1 then "" else "s").toList := by
    split <;> decide
  intro f hf
  rw [serverCount] at hf
  split at hf
  · cases hf
  · rw [List.mem_singleton.1 hf]
    simp only [Decimal.natText, String.toList_append, String.toList_ofList, List.mem_append, not_or]
    exact ⟨⟨⟨hdigits, by decide⟩, hunit⟩, hplural⟩

/-- The time holds no plus sign. -/
theorem plus_notMem_serverTime (micros : Int) : '+' ∉ (serverTime micros).body.toList := by
  have htext : '+' ∉ (timeText micros).toList := by
    rw [WrittenTime.toList_timeText]
    exact (WrittenTime.exact_ofMicros micros).notMem_chars (by decide) (by decide)
  rw [timeText_eq, IntervalField.unmarked, String.toList_append] at htext
  exact fun hplus => htext (List.mem_append_right _ hplus)

/-- No field holds a plus sign of its own. -/
theorem plus_notMem_body (i : Interval) : ∀ f ∈ i.serverFields, '+' ∉ f.body.toList := by
  have hdate : ∀ f ∈ i.serverDate, '+' ∉ f.body.toList := by
    intro f hf
    rw [serverDate, List.mem_append, List.mem_append] at hf
    rcases hf with (hyear | hmonth) | hday
    · exact plus_notMem_serverCount _ (by decide) f hyear
    · exact plus_notMem_serverCount _ (by decide) f hmonth
    · exact plus_notMem_serverCount _ (by decide) f hday
  intro f hf
  rw [serverFields] at hf
  split at hf
  · rw [List.mem_append, List.mem_singleton] at hf
    rcases hf with hf | rfl
    · exact hdate f hf
    · exact plus_notMem_serverTime _
  · exact hdate f hf

end Interval

namespace IntervalField

/-- Without plus signs the server prints the fields as they are. -/
theorem map_filter_printed {fields : List IntervalField}
    (hfields : ∀ f ∈ fields, '+' ∉ f.body.toList) (behindNegative : Bool) :
    ((printed behindNegative fields).map String.toList).map (List.filter (· ≠ '+')) =
      (fields.map unmarked).map String.toList := by
  induction fields generalizing behindNegative with
  | nil => rfl
  | cons f fields ih =>
    obtain ⟨hbody, hrest⟩ := List.forall_mem_cons.1 hfields
    have hsign : (f.sign behindNegative).toList.filter (· ≠ '+') = (f.sign false).toList := by
      simp only [sign]
      cases f.negative <;> cases behindNegative <;> rfl
    have hkept : f.body.toList.filter (· ≠ '+') = f.body.toList := by
      rw [List.filter_eq_self]
      exact fun c hc => decide_eq_true fun hplus => hbody (hplus ▸ hc)
    rw [printed, List.map_cons, List.map_cons, ih hrest, List.map_cons, List.map_cons,
      String.toList_append, List.filter_append, hsign, hkept, unmarked, String.toList_append]

/-- The server prints no plus sign exactly if no field that is not negative stands directly behind
a negative one. -/
theorem plus_notMem_printed_iff {fields : List IntervalField}
    (hfields : ∀ f ∈ fields, '+' ∉ f.body.toList) (behindNegative : Bool) :
    (∀ part ∈ printed behindNegative fields, '+' ∉ part.toList) ↔
      (∀ f ∈ fields.head?, behindNegative = true → f.negative = true) ∧
        fields.IsChain Unmarked := by
  induction fields generalizing behindNegative with
  | nil => simp [printed]
  | cons f fields ih =>
    obtain ⟨hbody, hrest⟩ := List.forall_mem_cons.1 hfields
    have hsign : '+' ∉ (f.sign behindNegative).toList ↔
        (behindNegative = true → f.negative = true) := by
      simp only [sign]
      cases f.negative <;> cases behindNegative <;> decide
    rw [printed, List.forall_mem_cons, ih hrest, List.isChain_cons, String.toList_append,
      List.mem_append, not_or, hsign]
    simp [hbody, Unmarked]

end IntervalField

namespace Interval

/-- The text of an interval is that of the server without plus signs. The two are equal exactly if
no field that is not negative stands directly behind a negative one. -/
theorem text_eq_serverText_iff (i : Interval) :
    i.text.toList = i.serverText.toList.filter (· ≠ '+') ∧
      (i.text = i.serverText ↔ i.serverFields.IsChain IntervalField.Unmarked) := by
  have hfields := i.plus_notMem_body
  have htext : i.text.toList = i.serverText.toList.filter (· ≠ '+') := by
    rw [text, serverText, Text.join, Text.join, String.toList_intercalate,
      String.toList_intercalate, filter_intercalate, IntervalField.map_filter_printed hfields,
      parts_eq_unmarked]
    rfl
  have hplus : '+' ∉ i.serverText.toList ↔ i.serverFields.IsChain IntervalField.Unmarked := by
    have hblank : '+' ∉ " ".toList := by decide
    rw [serverText, Text.join, String.toList_intercalate, mem_intercalate_iff hblank]
    simpa using IntervalField.plus_notMem_printed_iff hfields false
  have hequal : i.text = i.serverText ↔ '+' ∉ i.serverText.toList := by
    rw [← String.toList_inj, htext, List.filter_eq_self]
    simp only [decide_eq_true_eq]
    exact ⟨fun h hmem => h '+' hmem rfl, fun h c hc hplus => h (hplus ▸ hc)⟩
  exact ⟨htext, hequal.trans hplus⟩

/-- A day behind a negative month has a plus sign in the server's style only. -/
theorem text_without_plus :
    (Interval.mk (-1) 1 0).text = "-1 mons 1 day" ∧
      (Interval.mk (-1) 1 0).serverText = "-1 mons +1 day" := by
  constructor <;> rfl

end Interval

end TableQuery

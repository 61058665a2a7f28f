import TableQuery.Proofs.Wire.WrittenTime

/-!
# Intervals read back from their text

The text of an interval is a list of words: a count and its unit for every part of the date that is
not zero, and at most one time, which has colons in it. Years and months have the sign of the months
that they were divided from, so months, days and microseconds are read back exactly, whatever their
signs and up to the ends of their words. Main statement: no two intervals have one text, nothing
overflows, and the time adds up to the microseconds.
-/

namespace TableQuery

open TableQuery.Text

/-- Months, days and microseconds, of any size. -/
structure Span where
  /-- Months. -/
  months : Int
  /-- Days. -/
  days : Int
  /-- Microseconds. -/
  micros : Int

/-- Two spans together. -/
def Span.add (first second : Span) : Span :=
  ⟨first.months + second.months, first.days + second.days, first.micros + second.micros⟩

/-- A unit of a date. -/
inductive DateUnit where
  /-- Years. -/
  | year
  /-- Months. -/
  | month
  /-- Days. -/
  | day
  deriving DecidableEq, Repr

namespace DateUnit

/-- The name of a single one. -/
def name : DateUnit → String
  | year => "year"
  | month => "mon"
  | day => "day"

/-- The word for a count of a unit; only the count one has the singular. -/
def word (n : Int) (unit : DateUnit) : String :=
  unit.name ++ if n = 1 then "" else "s"

/-- The unit that a word names, in the singular or the plural. -/
def ofWord? : String → Option DateUnit
  | "year" | "years" => some year
  | "mon" | "mons" => some month
  | "day" | "days" => some day
  | _ => none

/-- The span of a count. -/
def span (n : Int) : DateUnit → Span
  | year => ⟨12 * n, 0, 0⟩
  | month => ⟨n, 0, 0⟩
  | day => ⟨0, n, 0⟩

/-- The word for a count names its unit. -/
theorem ofWord?_word (n : Int) (unit : DateUnit) : ofWord? (unit.word n) = some unit := by
  rw [word]
  cases unit <;> split <;> rfl

/-- The word for a count holds neither a blank nor a colon. -/
theorem notMem_word (n : Int) (unit : DateUnit) :
    ' ' ∉ (unit.word n).toList ∧ ':' ∉ (unit.word n).toList := by
  rw [word]
  cases unit <;> split <;> decide

/-- A count of zero adds nothing. -/
theorem span_zero_add (unit : DateUnit) (behind : Span) : (unit.span 0).add behind = behind := by
  cases unit <;> simp [span, Span.add]

end DateUnit

namespace Interval

/-- The counts of the years, months and days that are not zero. -/
def dateCounts (i : Interval) : List (Int × DateUnit) :=
  [(i.years, .year), (i.monthsOfYear, .month), (i.days.toInt, .day)].filter fun p => p.1 ≠ 0

/-- The words for a count. -/
def countWords (p : Int × DateUnit) : List (List Char) :=
  [Decimal.intChars p.1, (p.2.word p.1).toList]

/-- The time stands in the text: it is not zero, or nothing else is there. -/
def ShowsTime (i : Interval) : Prop :=
  i.microseconds ≠ 0 ∨ i.months = 0 ∧ i.days = 0

instance (i : Interval) : Decidable i.ShowsTime :=
  inferInstanceAs (Decidable (_ ∨ _))

/-- Read months, days and microseconds from words: counts with their units, then a time. -/
def readWords? : List (List Char) → Option Span
  | [] => some ⟨0, 0, 0⟩
  | [time] => (WrittenTime.read? time).map fun t => ⟨0, 0, t.micros⟩
  | count :: unit :: words => do
    let n ← Decimal.readInt? count
    let unit ← DateUnit.ofWord? (String.ofList unit)
    let behind ← readWords? words
    some ((unit.span n).add behind)

/-- Read an interval from its text. -/
def ofText? (s : String) : Option Interval :=
  (readWords? (splitAt ' ' s.toList)).map fun span =>
    ⟨Int32.ofInt span.months, Int32.ofInt span.days, Int64.ofInt span.micros⟩

/-- Years and months make up the months. -/
theorem years_add_monthsOfYear (i : Interval) :
    12 * i.years + i.monthsOfYear = i.months.toInt :=
  Int.mul_tdiv_add_tmod _ _

/-- The parts of the date are the counts. -/
theorem dateParts_eq (i : Interval) :
    i.dateParts = i.dateCounts.map fun p => counted p.1 p.2.name := by
  simp only [dateParts, dateCounts, ← Int32.toInt_inj, Int32.toInt_zero]
  by_cases hyear : i.years = 0 <;> by_cases hmonth : i.monthsOfYear = 0 <;>
    by_cases hday : i.days.toInt = 0 <;> simp [hyear, hmonth, hday, DateUnit.name]

/-- There is no count only if months and days are zero. -/
theorem dateCounts_eq_nil_iff (i : Interval) :
    i.dateCounts = [] ↔ i.months = 0 ∧ i.days = 0 := by
  have hmonths : i.months.toInt = 0 ↔ i.years = 0 ∧ i.monthsOfYear = 0 := by
    have hsum := i.years_add_monthsOfYear
    constructor
    · intro hzero
      simp [years, monthsOfYear, hzero]
    · omega
  simp [dateCounts, ← Int32.toInt_inj, Int32.toInt_zero, hmonths, and_assoc]

/-- Counts together with a span. -/
def addCounts (counts : List (Int × DateUnit)) (behind : Span) : Span :=
  counts.foldr (fun p sum => (p.2.span p.1).add sum) behind

/-- The counts of an interval add up to its months and days. -/
theorem addCounts_dateCounts (i : Interval) (micros : Int) :
    addCounts i.dateCounts ⟨0, 0, micros⟩ = ⟨i.months.toInt, i.days.toInt, micros⟩ := by
  have hfilter : ∀ (counts : List (Int × DateUnit)) (behind : Span),
      addCounts (counts.filter fun p => p.1 ≠ 0) behind = addCounts counts behind := by
    intro counts behind
    induction counts with
    | nil => rfl
    | cons p counts ih =>
      by_cases hzero : p.1 = 0
      · simpa [addCounts, hzero, DateUnit.span_zero_add] using ih
      · simpa [addCounts, hzero] using congrArg (p.2.span p.1).add ih
  rw [dateCounts, hfilter]
  simp [addCounts, Span.add, DateUnit.span, i.years_add_monthsOfYear]

/-- A count is written in two words. -/
theorem splitAt_counted (p : Int × DateUnit) :
    splitAt ' ' (counted p.1 p.2.name).toList = countWords p := by
  have hcount : ' ' ∉ Decimal.intChars p.1 := Decimal.notMem_intChars (by decide) (by decide)
  have htext : (counted p.1 p.2.name).toList =
      Decimal.intChars p.1 ++ ' ' :: (p.2.word p.1).toList := by
    simp [counted, Decimal.intText, DateUnit.word]
  rw [htext, splitAt_append hcount, splitAt_of_notMem (p.2.notMem_word p.1).1]
  rfl

/-- Counts in front of words are read in front of what the words say. -/
theorem readWords?_counts (counts : List (Int × DateUnit)) (words : List (List Char)) :
    readWords? (counts.flatMap countWords ++ words) =
      (readWords? words).map (addCounts counts) := by
  induction counts with
  | nil => exact Option.map_id'.symm
  | cons p counts ih =>
    have hword : String.ofList (p.2.word p.1).toList = p.2.word p.1 := String.ofList_toList
    rw [List.flatMap_cons, List.append_assoc, countWords, List.cons_append, List.cons_append,
      List.nil_append, readWords?, Decimal.readInt?_intChars, hword, DateUnit.ofWord?_word, ih]
    cases readWords? words <;> rfl

/-- The parts of an interval are its counts and, where it stands, the time. -/
theorem parts_eq (i : Interval) :
    i.parts = (i.dateCounts.map fun p => counted p.1 p.2.name) ++
      if i.ShowsTime then [timeText i.microseconds.toInt] else [] := by
  have hempty : i.dateParts.isEmpty = true ↔ i.months = 0 ∧ i.days = 0 := by
    rw [dateParts_eq, List.isEmpty_map, List.isEmpty_iff, dateCounts_eq_nil_iff]
  have hleft : (i.microseconds = 0 && !i.dateParts.isEmpty) = true ↔ ¬i.ShowsTime := by
    rw [ShowsTime, ← hempty]
    simp
  rw [parts, ← dateParts_eq]
  by_cases htime : i.ShowsTime
  · rw [if_neg (mt hleft.1 (not_not_intro htime)), if_pos htime]
  · rw [if_pos (hleft.2 htime), if_neg htime, List.append_nil]

/-- The words of the text of an interval. -/
theorem splitAt_text (i : Interval) :
    splitAt ' ' i.text.toList = i.dateCounts.flatMap countWords ++
      if i.ShowsTime then [(WrittenTime.ofMicros i.microseconds.toInt).chars] else [] := by
  have hne : i.parts.map String.toList ≠ [] := by
    simpa using i.parts_ne_nil
  have hsplit : splitAt ' ' i.text.toList =
      (i.parts.map String.toList).flatMap (splitAt ' ') := by
    rw [text, Text.join, String.toList_intercalate]
    exact splitAt_intercalate_eq_flatMap ' ' hne
  have htime : splitAt ' ' (timeText i.microseconds.toInt).toList =
      [(WrittenTime.ofMicros i.microseconds.toInt).chars] := by
    rw [WrittenTime.toList_timeText]
    exact splitAt_of_notMem
      ((WrittenTime.exact_ofMicros _).notMem_chars (by decide) (by decide))
  have hcounts : ((i.dateCounts.map fun p => counted p.1 p.2.name).map String.toList).flatMap
      (splitAt ' ') = i.dateCounts.flatMap countWords := by
    simp [List.flatMap_map, splitAt_counted]
  rw [hsplit, parts_eq, List.map_append, List.flatMap_append, hcounts]
  split
  · simp [htime]
  · rfl

/-- An interval is read back from its text. -/
theorem ofText?_text (i : Interval) : ofText? i.text = some i := by
  have htime : readWords? (if i.ShowsTime then
      [(WrittenTime.ofMicros i.microseconds.toInt).chars] else []) =
        some ⟨0, 0, i.microseconds.toInt⟩ := by
    have hexact := WrittenTime.exact_ofMicros i.microseconds.toInt
    by_cases hshown : i.ShowsTime
    · rw [if_pos hshown, readWords?, hexact.read?_chars, Option.map_some, hexact.micros_eq]
    · have hzero : i.microseconds = 0 := not_not.1 fun hne => hshown (.inl hne)
      rw [if_neg hshown, hzero]
      rfl
  rw [ofText?, splitAt_text, readWords?_counts, htime, Option.map_some, addCounts_dateCounts]
  simp

/-- The words of counts have no colon. -/
theorem colon_notMem_countWords (p : Int × DateUnit) : ∀ word ∈ countWords p, ':' ∉ word := by
  have hcount : ':' ∉ Decimal.intChars p.1 := Decimal.notMem_intChars (by decide) (by decide)
  intro word hword
  rw [countWords, List.mem_cons, List.mem_singleton] at hword
  rcases hword with rfl | rfl
  · exact hcount
  · exact (p.2.notMem_word p.1).2

/-- Of the words of the text only the time has a colon. -/
theorem mem_words_colon_iff (i : Interval) (word : List Char) :
    (word ∈ splitAt ' ' i.text.toList ∧ ':' ∈ word) ↔
      i.ShowsTime ∧ word = (WrittenTime.ofMicros i.microseconds.toInt).chars := by
  rw [splitAt_text, List.mem_append, List.mem_flatMap]
  constructor
  · rintro ⟨⟨p, -, hcount⟩ | htime, hcolon⟩
    · exact absurd hcolon (colon_notMem_countWords p word hcount)
    · split at htime
      · next hshown => exact ⟨hshown, List.mem_singleton.1 htime⟩
      · cases htime
  · rintro ⟨hshown, rfl⟩
    rw [if_pos hshown]
    exact ⟨.inr (List.mem_singleton_self _), WrittenTime.colon_mem_chars _⟩

/-- The years of a word of 32 bits are a word of 32 bits. -/
theorem toInt_div_twelve (n : Int32) : (n / 12).toInt = n.toInt.tdiv 12 := by
  have hlow := n.le_toInt
  have hhigh := n.toInt_lt
  have hsum := Int.mul_tdiv_add_tmod n.toInt 12
  have habove : n.toInt.tmod 12 < 12 := Int.tmod_lt_of_pos n.toInt (by decide)
  have hbelow : -12 < n.toInt.tmod 12 := Int.lt_tmod_of_pos n.toInt (by decide)
  have htwelve : (12 : Int32).toInt = 12 := rfl
  rw [Int32.toInt_div, htwelve]
  exact Int.bmod_eq_of_le (by omega) (by omega)

/-- What the text of an interval keeps of it. -/
structure Lossless (i : Interval) : Prop where
  /-- The interval is read back. -/
  read : ofText? i.text = some i
  /-- No other interval has the text. -/
  injective : ∀ j : Interval, j.text = i.text → j = i
  /-- The years of the months in words of 32 bits are their exact quotient. -/
  years_eq : (i.months / 12).toInt = i.years
  /-- The months beside the years in words of 32 bits are their exact remainder. -/
  monthsOfYear_eq : (i.months % 12).toInt = i.monthsOfYear
  /-- The microseconds without their sign fit a word of 64 bits. -/
  magnitude_lt : i.microseconds.toInt.natAbs < UInt64.size
  /-- A word with a colon stands in the text if the microseconds are not zero or nothing else is
  there. -/
  shown_iff : (∃ word ∈ splitAt ' ' i.text.toList, ':' ∈ word) ↔
    i.microseconds ≠ 0 ∨ i.months = 0 ∧ i.days = 0
  /-- It is a time whose minutes and seconds are below sixty and that adds up to the
  microseconds. -/
  time : ∀ word ∈ splitAt ' ' i.text.toList, ':' ∈ word →
    ∃ t : WrittenTime, word = t.chars ∧ t.Exact i.microseconds.toInt

/-- The text of an interval loses nothing, whatever its signs and up to the ends of its words. -/
theorem text_lossless (i : Interval) : i.Lossless where
  read := ofText?_text i
  injective j h := by
    have hread := ofText?_text j
    rw [h, ofText?_text] at hread
    exact (Option.some.inj hread).symm
  years_eq := toInt_div_twelve i.months
  monthsOfYear_eq := Int32.toInt_mod i.months 12
  magnitude_lt := by
    have hlow := i.microseconds.le_toInt
    have hhigh := i.microseconds.toInt_lt
    have hsize : UInt64.size = 18446744073709551616 := rfl
    omega
  shown_iff := by
    constructor
    · rintro ⟨word, hword⟩
      exact ((i.mem_words_colon_iff word).1 hword).1
    · intro hshown
      exact ⟨_, (i.mem_words_colon_iff _).2 ⟨hshown, rfl⟩⟩
  time word hword hcolon := by
    obtain ⟨-, htime⟩ := (i.mem_words_colon_iff word).1 ⟨hword, hcolon⟩
    exact ⟨_, htime, WrittenTime.exact_ofMicros _⟩

/-- The lowest numbers of all three words. -/
example : (Interval.mk (-0x80000000) (-0x80000000) (-0x8000000000000000)).text =
    "-178956970 years -8 mons -2147483648 days -2562047788:00:54.775808" := by
  rfl

end Interval

end TableQuery

import TableQuery.Proofs.Decimal.Digits
import TableQuery.Proofs.Text.Cut
import TableQuery.Wire.Cell

/-!
# Times as they are written

A time is written as a sign, hours, minutes and seconds between colons, and a fraction of a second
without closing zeros. Minutes and seconds stay below sixty, and all of them add up to the
microseconds, so the time that was written is read back exactly.
-/

namespace TableQuery

open TableQuery.Text

/-- A time as it is written. -/
structure WrittenTime where
  /-- It has a minus sign. -/
  negative : Bool
  /-- The digits of the hours. -/
  hours : List Char
  /-- The digits of the minutes. -/
  minutes : List Char
  /-- The digits of the seconds. -/
  seconds : List Char
  /-- The digits of the fraction of a second, if there is one. -/
  fraction : List Char

namespace WrittenTime

/-- The characters of a time. -/
def chars (t : WrittenTime) : List Char :=
  (if t.negative then ['-'] else []) ++ (t.hours ++ ':' :: (t.minutes ++ ':' :: (t.seconds ++
    if t.fraction = [] then [] else '.' :: t.fraction)))

/-- The microseconds that hours, minutes, seconds and fraction add up to. -/
def magnitude (t : WrittenTime) : Nat :=
  (Decimal.value t.hours * 3600 + Decimal.value t.minutes * 60 + Decimal.value t.seconds) *
    1000000 + Decimal.value t.fraction * Nat.pow 10 (6 - t.fraction.length)

/-- The microseconds of a time. -/
def micros (t : WrittenTime) : Int :=
  if t.negative then -(t.magnitude : Int) else t.magnitude

/-- Read a time: a sign, and hours, minutes and seconds between colons. -/
def read? (cs : List Char) : Option WrittenTime :=
  let negative := cs.head? == some '-'
  match splitAt ':' (if negative then cs.tail else cs) with
  | [hours, minutes, rest] =>
    match splitAt '.' rest with
    | [seconds] => some ⟨negative, hours, minutes, seconds, []⟩
    | [seconds, fraction] => some ⟨negative, hours, minutes, seconds, fraction⟩
    | _ => none
  | _ => none

/-- A time is written in the form that microseconds have. -/
structure Exact (t : WrittenTime) (micros : Int) : Prop where
  /-- The sign is that of the microseconds. -/
  negative_iff : t.negative = true ↔ micros < 0
  /-- The hours have two digits or more. -/
  hours : Decimal.isDigits t.hours = true ∧ 2 ≤ t.hours.length
  /-- The minutes have two digits and are fewer than sixty. -/
  minutes : Decimal.isDigits t.minutes = true ∧ t.minutes.length = 2 ∧
    Decimal.value t.minutes < 60
  /-- The seconds have two digits and are fewer than sixty. -/
  seconds : Decimal.isDigits t.seconds = true ∧ t.seconds.length = 2 ∧
    Decimal.value t.seconds < 60
  /-- The fraction has at most six digits, of which the last one is not zero. -/
  fraction : (∀ c ∈ t.fraction, c.isDigit = true) ∧ t.fraction.length ≤ 6 ∧
    '0' ∉ t.fraction.getLast?
  /-- All of them add up to the microseconds without their sign. -/
  magnitude_eq : (Decimal.value t.hours * 3600 + Decimal.value t.minutes * 60 +
    Decimal.value t.seconds) * 1000000 +
      Decimal.value t.fraction * Nat.pow 10 (6 - t.fraction.length) = micros.natAbs

/-- The digits of a fraction of a second, without closing zeros. -/
def fractionDigits (micros : Nat) : List Char :=
  (Decimal.padded 6 micros).rdropWhile (· = '0')

/-- The time of microseconds, as it is written. -/
def ofMicros (micros : Int) : WrittenTime :=
  let seconds := micros.natAbs / Interval.microsPerSecond
  ⟨micros < 0, Decimal.padded 2 (seconds / 3600), Decimal.padded 2 (seconds / 60 % 60),
    Decimal.padded 2 (seconds % 60), fractionDigits (micros.natAbs % Interval.microsPerSecond)⟩

/-- The digits of a fraction are the first ones of six. -/
theorem fractionDigits_begins (n : Nat) : fractionDigits n <+: Decimal.padded 6 n :=
  List.rdropWhile_prefix _ _

/-- The digits of a fraction do not close with a zero. -/
theorem zero_notMem_getLast?_fractionDigits (n : Nat) : '0' ∉ (fractionDigits n).getLast? := by
  intro hlast
  have hne : fractionDigits n ≠ [] := by
    intro hnil
    rw [hnil] at hlast
    cases hlast
  have hnot := List.rdropWhile_last_not (fun c => decide (c = '0')) _ hne
  have hzero : (fractionDigits n).getLast hne = '0' :=
    Option.some.inj ((List.getLast?_eq_some_getLast hne).symm.trans hlast)
  exact hnot (decide_eq_true hzero)

section Fraction

variable {n : Nat} (h : n < Interval.microsPerSecond)

include h

/-- A fraction has at most six digits. -/
theorem length_fractionDigits_le : (fractionDigits n).length ≤ 6 := by
  have hlength := (fractionDigits_begins n).length_le
  rwa [Decimal.length_padded (by decide) h] at hlength

/-- The digits of a fraction have its microseconds, where the zeros that are left out count. -/
theorem value_fractionDigits :
    Decimal.value (fractionDigits n) * Nat.pow 10 (6 - (fractionDigits n).length) = n := by
  have hlength : (Decimal.padded 6 n).length = 6 := Decimal.length_padded (by decide) h
  have hvalue := Decimal.value_rdropWhile_zero (Decimal.padded 6 n)
  rw [hlength, Decimal.value_padded] at hvalue
  exact hvalue

/-- A fraction without digits is zero. -/
theorem fractionDigits_eq_nil_iff : fractionDigits n = [] ↔ n = 0 := by
  constructor
  · intro hnil
    have hvalue := value_fractionDigits h
    rw [hnil] at hvalue
    simpa [Decimal.value] using hvalue.symm
  · rintro rfl
    rfl

/-- The fraction of fewer microseconds than a second has is a point and its digits. -/
theorem fractionChars_eq :
    Interval.fractionChars n =
      if fractionDigits n = [] then [] else '.' :: fractionDigits n := by
  rw [Interval.fractionChars]
  exact if_congr (fractionDigits_eq_nil_iff h).symm rfl rfl

end Fraction

/-- Minutes and seconds are two digits below sixty. -/
theorem padded_sixty (n : Nat) :
    Decimal.isDigits (Decimal.padded 2 (n % 60)) = true ∧
      (Decimal.padded 2 (n % 60)).length = 2 ∧ Decimal.value (Decimal.padded 2 (n % 60)) < 60 := by
  have hlt : n % 60 < 60 := Nat.mod_lt _ (by decide)
  rw [Decimal.value_padded]
  exact ⟨Decimal.isDigits_padded _ _,
    Decimal.length_padded (by decide) (Nat.lt_trans hlt (by decide)), hlt⟩

variable {micros : Int} {t : WrittenTime}

/-- What a time is written from is exact. -/
theorem exact_ofMicros (micros : Int) : (ofMicros micros).Exact micros := by
  have hfraction : micros.natAbs % Interval.microsPerSecond < Interval.microsPerSecond :=
    Nat.mod_lt _ (by decide)
  refine ⟨decide_eq_true_iff, ⟨Decimal.isDigits_padded _ _, Decimal.le_length_padded 2 _⟩,
    padded_sixty _, padded_sixty _, ⟨fun c hc => ?_, length_fractionDigits_le hfraction,
      zero_notMem_getLast?_fractionDigits _⟩, ?_⟩
  · exact Decimal.isDigit_of_mem_padded ((fractionDigits_begins _).subset hc)
  · have hmicros : Interval.microsPerSecond = 1000000 := rfl
    simp only [ofMicros, Decimal.value_padded, value_fractionDigits hfraction]
    rw [hmicros]
    omega

/-- The text of a time is what it is written as. -/
theorem toList_timeText (micros : Int) :
    (Interval.timeText micros).toList = (ofMicros micros).chars := by
  have hfraction : micros.natAbs % Interval.microsPerSecond < Interval.microsPerSecond :=
    Nat.mod_lt _ (by decide)
  have hsign : (if micros < 0 then "-" else "").toList =
      if decide (micros < 0) = true then ['-'] else [] := by
    simp only [decide_eq_true_eq]
    split <;> rfl
  simp only [Interval.timeText, String.toList_append, String.toList_ofList, hsign,
    fractionChars_eq hfraction, chars, ofMicros, List.append_assoc, List.cons_append]
  rfl

/-- A written time is read back. -/
theorem Exact.read?_chars (h : t.Exact micros) : read? t.chars = some t := by
  obtain ⟨negative, hours, minutes, seconds, fraction⟩ := t
  have hhours := Decimal.isDigit_of_mem h.hours.1
  have hminutes := Decimal.isDigit_of_mem h.minutes.1
  have hseconds := Decimal.isDigit_of_mem h.seconds.1
  have hfraction := h.fraction.1
  simp only at hhours hminutes hseconds hfraction
  have hcolon : ':' ∉ seconds ++ if fraction = [] then [] else '.' :: fraction := by
    rw [List.mem_append, not_or]
    refine ⟨Decimal.notMem_of_isDigit hseconds (by decide), ?_⟩
    split
    · exact List.not_mem_nil
    · rw [List.mem_cons, not_or]
      exact ⟨by decide, Decimal.notMem_of_isDigit hfraction (by decide)⟩
  have hparts : splitAt ':' (hours ++ ':' :: (minutes ++ ':' :: (seconds ++
      if fraction = [] then [] else '.' :: fraction))) =
        [hours, minutes, seconds ++ if fraction = [] then [] else '.' :: fraction] := by
    rw [splitAt_append (Decimal.notMem_of_isDigit hhours (by decide)),
      splitAt_append (Decimal.notMem_of_isDigit hminutes (by decide)), splitAt_of_notMem hcolon]
  have hpoint : splitAt '.' (seconds ++ if fraction = [] then [] else '.' :: fraction) =
      if fraction = [] then [seconds] else [seconds, fraction] := by
    have hwhole := Decimal.notMem_of_isDigit hseconds (c := '.') (by decide)
    split
    · rw [List.append_nil, splitAt_of_notMem hwhole]
    · rw [splitAt_append hwhole,
        splitAt_of_notMem (Decimal.notMem_of_isDigit hfraction (by decide))]
  have hdash : ∀ rest, ((hours ++ rest).head? == some '-') = false := by
    intro rest
    cases hours with
    | nil => exact absurd h.hours.2 (by simp)
    | cons c cs =>
      have hc : c ≠ '-' := by
        rintro rfl
        exact absurd (hhours '-' List.mem_cons_self) (by decide)
      simp [hc]
  cases negative with
  | true =>
    simp only [read?, chars, if_true, List.singleton_append, List.head?_cons, List.tail_cons,
      beq_self_eq_true, hparts, hpoint]
    by_cases hnone : fraction = [] <;> simp [hnone]
  | false =>
    simp only [read?, chars, Bool.false_eq_true, if_false, List.nil_append, hdash, hparts, hpoint]
    by_cases hnone : fraction = [] <;> simp [hnone]

/-- A written time has the microseconds that it was written from. -/
theorem Exact.micros_eq (h : t.Exact micros) : t.micros = micros := by
  have hmagnitude : t.magnitude = micros.natAbs := h.magnitude_eq
  have hsign := h.negative_iff
  rw [WrittenTime.micros, hmagnitude]
  split
  · next hnegative =>
    have hlt := hsign.1 hnegative
    omega
  · next hnonneg =>
    have hle := mt hsign.2 hnonneg
    omega

/-- A written time holds digits, its sign, colons and its point, and nothing else. -/
theorem Exact.notMem_chars (h : t.Exact micros) {c : Char} (hdigit : c.isDigit = false)
    (hsigns : c ∉ ['-', ':', '.']) : c ∉ t.chars := by
  simp only [List.mem_cons, List.not_mem_nil, or_false, not_or] at hsigns
  obtain ⟨hdash, hcolon, hpoint⟩ := hsigns
  have hsign : c ∉ if t.negative then ['-'] else [] := by
    split <;> simp [hdash]
  have hfraction : c ∉ if t.fraction = [] then [] else '.' :: t.fraction := by
    split
    · exact List.not_mem_nil
    · rw [List.mem_cons, not_or]
      exact ⟨hpoint, Decimal.notMem_of_isDigit h.fraction.1 hdigit⟩
  have hnumber : ∀ ds, Decimal.isDigits ds = true → c ∉ ds := fun ds hds =>
    Decimal.notMem_of_isDigit (Decimal.isDigit_of_mem hds) hdigit
  simp only [chars, List.mem_append, List.mem_cons, not_or]
  exact ⟨hsign, hnumber _ h.hours.1, hcolon, hnumber _ h.minutes.1, hcolon,
    hnumber _ h.seconds.1, hfraction⟩

/-- A written time has colons. -/
theorem colon_mem_chars (t : WrittenTime) : ':' ∈ t.chars := by
  simp [chars]

end WrittenTime

end TableQuery

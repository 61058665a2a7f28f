import Mathlib.Data.List.DropRight
import TableQuery.Decimal.Basic

/-!
# Written numbers

The digits of a number are read back as that number, also behind zeros and behind a sign. A written
integer is one run of characters: it begins with a digit or with a minus sign, and all that follows
are digits.
-/

namespace TableQuery.Decimal

/-- Digits are digits. -/
theorem isDigit_of_mem_digits {n : Nat} {c : Char} (h : c ∈ digits n) : c.isDigit = true :=
  Nat.isDigit_of_mem_toDigits (by decide) (by decide) h

/-- Padding puts nothing but digits in front of digits. -/
theorem isDigit_of_mem_padded {width n : Nat} {c : Char} (h : c ∈ padded width n) :
    c.isDigit = true := by
  rw [padded, List.mem_append] at h
  rcases h with hzero | hdigit
  · rw [List.eq_of_mem_replicate hzero]
    decide
  · exact isDigit_of_mem_digits hdigit

/-- What is not a digit does not stand among digits. -/
theorem notMem_of_isDigit {ds : List Char} (h : ∀ d ∈ ds, d.isDigit = true) {c : Char}
    (hc : c.isDigit = false) : c ∉ ds := by
  intro hmem
  rw [h c hmem] at hc
  cases hc

/-- A run of digits holds digits only. -/
theorem isDigit_of_mem {ds : List Char} (h : isDigits ds = true) : ∀ d ∈ ds, d.isDigit = true :=
  List.all_eq_true.1 (Bool.and_eq_true_iff.1 h).2

/-- Padded digits are a run of digits. -/
theorem isDigits_padded (width n : Nat) : isDigits (padded width n) = true := by
  have hne : digits n ≠ [] := Nat.toDigits_ne_nil
  have hsome : (padded width n).isEmpty = false := by simp [padded, hne]
  have hall : (padded width n).all Char.isDigit = true :=
    List.all_eq_true.2 fun c hc => isDigit_of_mem_padded hc
  rw [isDigits, hsome, hall]
  rfl

/-- The digits of a number are a run of digits. -/
theorem isDigits_digits (n : Nat) : isDigits (digits n) = true := by
  simpa [padded] using isDigits_padded 0 n

/-- Zeros in front of digits do not change their number. -/
theorem value_padded (width n : Nat) : value (padded width n) = n := by
  rw [padded, value, Nat.ofDigitChars_append, Nat.ofDigitChars_replicate_zero, Nat.mul_zero]
  exact value_digits n

/-- Padded digits have at least the width. -/
theorem le_length_padded (width n : Nat) : width ≤ (padded width n).length := by
  rw [padded, List.length_append, List.length_replicate]
  omega

/-- A number that fits the width is padded to it. -/
theorem length_padded {width n : Nat} (hwidth : 0 < width) (h : n < Nat.pow 10 width) :
    (padded width n).length = width := by
  have hlength : (digits n).length ≤ width :=
    (Nat.length_toDigits_le_iff (by decide) hwidth).2 h
  rw [padded, List.length_append, List.length_replicate]
  omega

/-- Closing zeros of digits are dropped from a number that they scale. -/
theorem value_rdropWhile_zero (ds : List Char) :
    value (ds.rdropWhile (· = '0')) * Nat.pow 10 (ds.length - (ds.rdropWhile (· = '0')).length) =
      value ds := by
  have hzero : ∀ c ∈ ds.rtakeWhile (· = '0'), c = '0' := by
    intro c hc
    simpa using List.mem_rtakeWhile_imp hc
  have hzeros : ds.rtakeWhile (· = '0') =
      List.replicate (ds.rtakeWhile (· = '0')).length '0' := List.eq_replicate_of_mem hzero
  have hsplit : ds.rdropWhile (· = '0') ++ ds.rtakeWhile (· = '0') = ds :=
    List.rdropWhile_append_rtakeWhile
  have hlength : ds.length - (ds.rdropWhile (· = '0')).length =
      (ds.rtakeWhile (· = '0')).length := by
    have hsum := congrArg List.length hsplit
    rw [List.length_append] at hsum
    omega
  calc value (ds.rdropWhile (· = '0')) * Nat.pow 10 (ds.length - (ds.rdropWhile (· = '0')).length)
    _ = Nat.pow 10 (ds.rtakeWhile (· = '0')).length * value (ds.rdropWhile (· = '0')) := by
        rw [hlength, Nat.mul_comm]
    _ = value (ds.rdropWhile (· = '0') ++ ds.rtakeWhile (· = '0')) := by
        rw [hzeros, value, value, Nat.ofDigitChars_append, Nat.ofDigitChars_replicate_zero,
          List.length_replicate]
        rfl
    _ = value ds := by rw [hsplit]

/-- A run of digits carries no sign. -/
theorem readNat?_of_isDigits {ds : List Char} (h : isDigits ds = true) :
    readNat? ds = some (value ds) := by
  cases ds with
  | nil => cases h
  | cons c cs =>
    have hc : c ≠ '+' := by
      rintro rfl
      cases h
    simp [readNat?, hc, h]

/-- A natural number is read from its digits, behind a plus sign or none, and from nothing else. -/
theorem readNat?_iff {cs : List Char} {n : Nat} : readNat? cs = some n ↔
    ∃ sign ds, cs = sign ++ ds ∧ (sign = [] ∨ sign = ['+']) ∧ isDigits ds = true ∧
      value ds = n := by
  constructor
  · intro h
    unfold readNat? at h
    dsimp only at h
    split at h
    · next rest =>
      split at h
      · next hdigits => exact ⟨['+'], rest, rfl, .inr rfl, hdigits, Option.some.inj h⟩
      · cases h
    · split at h
      · next hdigits => exact ⟨[], cs, rfl, .inl rfl, hdigits, Option.some.inj h⟩
      · cases h
  · rintro ⟨sign, ds, rfl, rfl | rfl, hdigits, rfl⟩
    · exact readNat?_of_isDigits hdigits
    · exact if_pos hdigits

/-- A written integer is read back. -/
theorem readInt?_intChars (n : Int) : readInt? (intChars n) = some n := by
  rw [intChars]
  split
  · next hnegative =>
    have hvalue : -((value (digits n.natAbs) : Nat) : Int) = n := by
      rw [value_digits]
      omega
    rw [readInt?, if_pos (isDigits_digits _), hvalue]
  · next hnonneg =>
    have hvalue : ((value (digits n.natAbs) : Nat) : Int) = n := by
      rw [value_digits]
      omega
    have hdigits := isDigits_digits n.natAbs
    rw [readInt?]
    · rw [readNat?_of_isDigits hdigits, Option.map_some]
      exact congrArg some hvalue
    · intro rest hminus
      rw [hminus] at hdigits
      cases hdigits

/-- A written integer of 64 bits is read back. -/
theorem readSigned?_intChars (n : Int64) : readSigned? 64 (intChars n.toInt) = some n.toInt := by
  have hlow := n.le_toInt
  have hhigh := n.toInt_lt
  have hrange : (-Int.pow 2 63 ≤ n.toInt ∧ n.toInt < Int.pow 2 63) := ⟨hlow, hhigh⟩
  rw [readSigned?, readInt?_intChars]
  simpa [Option.filter] using hrange

/-- A written integer holds digits and at most a minus sign besides. -/
theorem of_mem_intChars {n : Int} {c : Char} (h : c ∈ intChars n) :
    c = '-' ∨ c.isDigit = true := by
  rw [intChars] at h
  split at h
  · rw [List.mem_cons] at h
    exact h.imp_right isDigit_of_mem_digits
  · exact .inr (isDigit_of_mem_digits h)

/-- What is neither a digit nor the minus sign does not stand in a written integer. -/
theorem notMem_intChars {n : Int} {c : Char} (hdigit : c.isDigit = false) (hdash : c ≠ '-') :
    c ∉ intChars n := by
  intro hmem
  rcases of_mem_intChars hmem with rfl | hother
  · exact hdash rfl
  · rw [hother] at hdigit
    cases hdigit

/-- A written integer is a minus sign, if it is negative, and the digits of its magnitude. -/
theorem intText_eq (n : Int) :
    intText n = (if n < 0 then "-" else "") ++ natText n.natAbs := by
  rw [← String.toList_inj, intText, natText, intChars, String.toList_append]
  split <;> simp

end TableQuery.Decimal

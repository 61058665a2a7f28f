import Mathlib
import TableQuery.Binary64.Basic

/-!
# Rounding that stays finite

A quotient that is at most the largest double is rounded to a finite double. So integers of a word
have a finite double, and scaling a finite double down by a power of ten never leaves the finite
ones: a decimal number that has a value has a finite one.
-/

namespace TableQuery

/-- A quotient that is at most a whole number is rounded to at most that number. -/
theorem roundHalfEven_le {num den q : ℕ} (h : num ≤ q * den) : roundHalfEven num den ≤ q := by
  have hdiv : num / den ≤ q := Nat.div_le_of_le_mul (by rwa [Nat.mul_comm] at h)
  have hparts : den * (num / den) + num % den = num := Nat.div_add_mod num den
  rw [roundHalfEven]
  rcases hdiv.eq_or_lt with heq | hlt
  · -- the quotient is the number itself, so nothing is left over
    have hrest : num % den = 0 := by
      rw [heq, Nat.mul_comm den q] at hparts
      omega
    have hhalf : ¬den < 2 * (num % den) := by omega
    by_cases hden : 2 * (num % den) < den
    · rw [if_pos hden]
      exact hdiv
    · have hzero : den = 0 := by omega
      have hquotient : num / den = 0 := by rw [hzero, Nat.div_zero]
      rw [if_neg hden, if_neg hhalf, hquotient, if_pos rfl]
      exact Nat.zero_le q
  · split
    · exact hdiv
    · split
      · exact hlt
      · split
        · exact hdiv
        · exact hlt

namespace Binary64

/-- The exponent of the last bit of the largest double. -/
def topExponent : ℕ := 971

/-- The largest finite double. -/
def maxFinite : ℕ := (2 ^ 53 - 1) * 2 ^ topExponent

/-- The largest mantissa stays below the next power of two at every exponent. -/
theorem maxMantissa_mul_lt (e : ℕ) : (2 ^ 53 - 1) * 2 ^ e < 2 ^ (53 + e) := by
  rw [Nat.pow_add]
  exact Nat.mul_lt_mul_of_pos_right (by decide) (Nat.two_pow_pos e)

/-- The largest double is below the power of two where infinity begins. -/
theorem maxFinite_lt : maxFinite < 2 ^ (53 + topExponent) := by
  rw [maxFinite]
  exact maxMantissa_mul_lt topExponent

/-- A whole number of at most 64 bits is at most the largest double. -/
theorem le_maxFinite {n : ℕ} (h : n < 2 ^ 64) : n ≤ maxFinite := by
  have hpower : 2 ^ 64 ≤ 2 ^ topExponent := Nat.pow_le_pow_right (by decide) (by decide)
  exact (h.le.trans hpower).trans (Nat.le_mul_of_pos_left _ (by decide))

/-- The exponent of the first power of two above a quotient. -/
def ceilingExponent (num den : ℕ) : ℤ :=
  let k : ℤ := (Nat.log2 num : ℤ) - Nat.log2 den
  let reached := if 0 ≤ k then den * Nat.pow 2 k.toNat ≤ num else den ≤ num * Nat.pow 2 (-k).toNat
  if reached then k + 1 else k

/-- The exponent of the last bit of the double nearest to a quotient. -/
def lastExponent (num den : ℕ) : ℤ :=
  max (ceilingExponent num den - 53) (-1074)

variable {num den : ℕ}

/-- A quotient is below the power of two that is its ceiling. -/
theorem mul_lt_of_ceilingExponent_le (hden : den ≠ 0) {a b : ℕ}
    (h : ceilingExponent num den ≤ (b : ℤ) - a) : num * 2 ^ a < den * 2 ^ b := by
  have hnum : num < 2 ^ (num.log2 + 1) := Nat.lt_log2_self
  have hlow : 2 ^ den.log2 ≤ den := Nat.log2_self_le hden
  -- the quotient of the leading powers of two bounds every quotient
  have hleading : num.log2 + 1 + a ≤ den.log2 + b → num * 2 ^ a < den * 2 ^ b := fun hle =>
    calc num * 2 ^ a < 2 ^ (num.log2 + 1) * 2 ^ a :=
          Nat.mul_lt_mul_of_pos_right hnum (Nat.two_pow_pos a)
      _ = 2 ^ (num.log2 + 1 + a) := (Nat.pow_add 2 _ a).symm
      _ ≤ 2 ^ (den.log2 + b) := Nat.pow_le_pow_right (by decide) hle
      _ = 2 ^ den.log2 * 2 ^ b := Nat.pow_add 2 _ b
      _ ≤ den * 2 ^ b := Nat.mul_le_mul_right _ hlow
  by_cases hk : 0 ≤ (num.log2 : ℤ) - den.log2
  · simp only [ceilingExponent, hk, if_true] at h
    split at h
    · exact hleading (by omega)
    · next hreached =>
      have hlt : num < den * 2 ^ ((num.log2 : ℤ) - den.log2).toNat := Nat.lt_of_not_le hreached
      have hle : ((num.log2 : ℤ) - den.log2).toNat + a ≤ b := by omega
      calc num * 2 ^ a < den * 2 ^ ((num.log2 : ℤ) - den.log2).toNat * 2 ^ a :=
            Nat.mul_lt_mul_of_pos_right hlt (Nat.two_pow_pos a)
        _ = den * 2 ^ (((num.log2 : ℤ) - den.log2).toNat + a) := by rw [Nat.mul_assoc, Nat.pow_add]
        _ ≤ den * 2 ^ b := Nat.mul_le_mul_left _ (Nat.pow_le_pow_right (by decide) hle)
  · simp only [ceilingExponent, hk, if_false] at h
    split at h
    · exact hleading (by omega)
    · next hreached =>
      have hlt : num * 2 ^ (-((num.log2 : ℤ) - den.log2)).toNat < den := Nat.lt_of_not_le hreached
      have hle : a ≤ (-((num.log2 : ℤ) - den.log2)).toNat + b := by omega
      calc num * 2 ^ a ≤ num * 2 ^ ((-((num.log2 : ℤ) - den.log2)).toNat + b) :=
            Nat.mul_le_mul_left _ (Nat.pow_le_pow_right (by decide) hle)
        _ = num * 2 ^ (-((num.log2 : ℤ) - den.log2)).toNat * 2 ^ b := by
            rw [Nat.mul_assoc, Nat.pow_add]
        _ < den * 2 ^ b := Nat.mul_lt_mul_of_pos_right hlt (Nat.two_pow_pos b)

/-- A quotient is at least every power of two below its ceiling. -/
theorem mul_le_of_lt_ceilingExponent (hnum : num ≠ 0) {b : ℕ}
    (h : (b : ℤ) < ceilingExponent num den) : den * 2 ^ b ≤ num := by
  have hhigh : den < 2 ^ (den.log2 + 1) := Nat.lt_log2_self
  have hlow : 2 ^ num.log2 ≤ num := Nat.log2_self_le hnum
  have hleading : den.log2 + 1 + b ≤ num.log2 → den * 2 ^ b ≤ num := fun hle =>
    calc den * 2 ^ b ≤ 2 ^ (den.log2 + 1) * 2 ^ b := Nat.mul_le_mul_right _ hhigh.le
      _ = 2 ^ (den.log2 + 1 + b) := (Nat.pow_add 2 _ b).symm
      _ ≤ 2 ^ num.log2 := Nat.pow_le_pow_right (by decide) hle
      _ ≤ num := hlow
  by_cases hk : 0 ≤ (num.log2 : ℤ) - den.log2
  · simp only [ceilingExponent, hk, if_true] at h
    split at h
    · next hreached =>
      have hle : b ≤ ((num.log2 : ℤ) - den.log2).toNat := by omega
      exact (Nat.mul_le_mul_left _ (Nat.pow_le_pow_right (by decide) hle)).trans hreached
    · exact hleading (by omega)
  · simp only [ceilingExponent, hk, if_false] at h
    split at h <;> omega

/-- The mantissa of the double nearest to a quotient. -/
def nearestMantissa (num den : ℕ) : ℕ :=
  roundHalfEven (num * 2 ^ (-lastExponent num den).toNat) (den * 2 ^ (lastExponent num den).toNat)

/-- The word of the nearest double is made of its exponent and its mantissa. -/
theorem nearest_double_eq (hnum : num ≠ 0) :
    BinaryFormat.double.nearest num den =
      min ((lastExponent num den + 1074).toNat * 2 ^ 52 + nearestMantissa num den)
        BinaryFormat.double.infinity := by
  have hmantissa : nearestMantissa num den =
      if 0 ≤ lastExponent num den then roundHalfEven num (den * 2 ^ (lastExponent num den).toNat)
      else roundHalfEven (num * 2 ^ (-lastExponent num den).toNat) den := by
    rw [nearestMantissa]
    split
    · next hexponent =>
      have hzero : (-lastExponent num den).toNat = 0 := by omega
      rw [hzero, Nat.pow_zero, Nat.mul_one]
    · next hexponent =>
      have hzero : (lastExponent num den).toNat = 0 := by omega
      rw [hzero, Nat.pow_zero, Nat.mul_one]
  rw [hmantissa, BinaryFormat.nearest, if_neg hnum]
  rfl

/-- The mantissa of the nearest double has at most 53 bits, or is the next power of two. -/
theorem nearestMantissa_le (hden : den ≠ 0) : nearestMantissa num den ≤ 2 ^ 53 := by
  have hceiling : ceilingExponent num den ≤
      (((lastExponent num den).toNat + 53 : ℕ) : ℤ) - (-lastExponent num den).toNat := by
    rw [lastExponent]
    omega
  have hlt := mul_lt_of_ceilingExponent_le hden hceiling
  refine roundHalfEven_le (hlt.le.trans ?_)
  rw [Nat.pow_add, ← Nat.mul_assoc, Nat.mul_comm]

/-- A quotient that is at most the largest double is rounded to a finite word. -/
theorem nearest_lt_infinity (hden : den ≠ 0) (h : num ≤ den * maxFinite) :
    BinaryFormat.double.nearest num den < BinaryFormat.double.infinity := by
  by_cases hnum : num = 0
  · rw [hnum, BinaryFormat.nearest, if_pos rfl]
    decide
  have hexponent : lastExponent num den ≤ topExponent := by
    by_contra hlarge
    have hceiling : ((53 + topExponent : ℕ) : ℤ) < ceilingExponent num den := by
      rw [lastExponent, topExponent] at hlarge
      rw [topExponent]
      omega
    have hle := (mul_le_of_lt_ceilingExponent hnum hceiling).trans h
    have hpower := Nat.le_of_mul_le_mul_left hle (Nat.pos_of_ne_zero hden)
    exact absurd hpower (Nat.not_le.2 maxFinite_lt)
  have hlow : -1074 ≤ lastExponent num den := le_max_right _ _
  have hmantissa : nearestMantissa num den ≤ 2 ^ 53 := nearestMantissa_le hden
  have hinfinity : BinaryFormat.double.infinity = 2047 * 2 ^ 52 := by decide
  rw [nearest_double_eq hnum, hinfinity]
  refine (Nat.min_le_left _ _).trans_lt ?_
  rcases hexponent.eq_or_lt with htop | hbelow
  · -- at the last exponent the mantissa cannot be the next power of two
    have hlast : nearestMantissa num den ≤ 2 ^ 53 - 1 := by
      have hup : (topExponent : ℤ).toNat = topExponent := rfl
      have hdown : (-(topExponent : ℤ)).toNat = 0 := rfl
      rw [nearestMantissa, htop, hup, hdown, Nat.pow_zero, Nat.mul_one]
      rw [maxFinite, Nat.mul_left_comm] at h
      exact roundHalfEven_le h
    have hplace : ((topExponent : ℤ) + 1074).toNat = 2045 := rfl
    rw [htop, hplace]
    omega
  · rw [topExponent] at hbelow
    have hplace : (lastExponent num den + 1074).toNat ≤ 2044 := by omega
    omega

/-- A word of 63 bits is the magnitude of the double with that word and any sign. -/
theorem magnitude_ofMagnitude (negative : Bool) {word : ℕ} (h : word < 2 ^ 63) :
    (ofMagnitude negative word).magnitude = word := by
  have hmask : (0x7FFFFFFFFFFFFFFF : UInt64).toNat = 2 ^ 63 - 1 := rfl
  have hsign : (0x8000000000000000 : UInt64).toNat = 2 ^ 63 := rfl
  have hmod : word % 0x8000000000000000 = word := Nat.mod_eq_of_lt h
  have hword : (UInt64.ofNat word).toNat = word :=
    UInt64.toNat_ofNat_of_lt' (h.trans (by decide))
  rw [magnitude, ofMagnitude, hmod, UInt64.toNat_and, hmask, Nat.and_two_pow_sub_one_eq_mod]
  cases negative with
  | false =>
    rw [if_neg (by decide), hword]
    exact Nat.mod_eq_of_lt h
  | true =>
    rw [if_pos rfl, UInt64.toNat_or, hword, hsign, Nat.or_comm, ← Nat.mul_one (2 ^ 63),
      ← Nat.two_pow_add_eq_or_of_lt h, Nat.mul_one, Nat.add_mod_left]
    exact Nat.mod_eq_of_lt h

/-- A word below infinity is a finite double. -/
theorem isFinite_ofMagnitude (negative : Bool) {word : ℕ}
    (h : word < BinaryFormat.double.infinity) : (ofMagnitude negative word).isFinite = true := by
  have hword : word < 2 ^ 63 := h.trans (by decide)
  rw [isFinite, magnitude_ofMagnitude negative hword]
  exact decide_eq_true h

/-- A finite double stays finite with another sign. -/
theorem isFinite_withSign (negative : Bool) {x : Binary64} (h : x.isFinite = true) :
    (withSign negative x).isFinite = true :=
  isFinite_ofMagnitude negative (of_decide_eq_true h)

/-- The double nearest to a quotient that is at most the largest double is finite. -/
theorem isFinite_ofRatio (negative : Bool) (hden : den ≠ 0) (h : num ≤ den * maxFinite) :
    (ofRatio negative num den).isFinite = true :=
  isFinite_ofMagnitude negative (nearest_lt_infinity hden h)

/-- An integer of at most 64 bits has a finite double. -/
theorem isFinite_ofInt {n : ℤ} (h : n.natAbs < 2 ^ 64) : (ofInt n).isFinite = true := by
  refine isFinite_ofRatio _ Nat.one_ne_zero ?_
  rw [Nat.one_mul]
  exact le_maxFinite h

/-- The mantissa and the exponent of a finite double are at most those of the largest one. -/
theorem bounds_of_meaning {x : Binary64} {negative : Bool} {mantissa : ℕ} {exponent : ℤ}
    (h : x.meaning = .finite negative mantissa exponent) :
    mantissa ≤ 2 ^ 53 - 1 ∧ exponent ≤ topExponent := by
  have htop : topExponent = 971 := rfl
  rw [meaning] at h
  split at h
  · next hfinite =>
    have hinfinity : BinaryFormat.double.infinity = 2047 * 2 ^ 52 := by decide
    have hunit : Nat.pow 2 (BinaryFormat.double.precision - 1) = 2 ^ 52 := rfl
    have hleast : BinaryFormat.double.minExponent = -1074 := rfl
    rw [hinfinity] at hfinite
    have hbiased : x.magnitude / 2 ^ 52 < 2047 := by omega
    have hparts := Nat.mod_lt x.magnitude (show 2 ^ 52 > 0 by decide)
    rw [splitMagnitude, hunit, hleast] at h
    dsimp only at h
    split at h
    · next hzero =>
      simp only [Meaning.finite.injEq] at h
      omega
    · next hnormal =>
      simp only [Meaning.finite.injEq] at h
      omega
  · split at h <;> cases h

/-- The powers of ten up to 308 are doubles with all 53 bits, and not below one. -/
theorem splitMagnitude_power : ∀ power ≤ maxPower,
    2 ^ 52 ≤ (splitMagnitude .double (nearestDecimal .double 1 power)).1 ∧
      -52 ≤ (splitMagnitude .double (nearestDecimal .double 1 power)).2 := by
  decide +kernel

/-- A finite double divided by a power of ten up to 308 is finite. -/
theorem isFinite_scaleByTen {x : Binary64} {negative : Bool} {mantissa : ℕ} {exponent : ℤ}
    (h : x.meaning = .finite negative mantissa exponent) {power : ℕ} (hpower : power ≤ maxPower) :
    (scaleByTen mantissa exponent false power).isFinite = true := by
  obtain ⟨hmantissa, hexponent⟩ := bounds_of_meaning h
  obtain ⟨hdivisor, hscale⟩ := splitMagnitude_power power hpower
  rw [scaleByTen]
  generalize splitMagnitude .double (nearestDecimal .double 1 power) = divisor at hdivisor hscale
  obtain ⟨m, e⟩ := divisor
  dsimp only at hdivisor hscale ⊢
  rw [if_neg (by decide)]
  have hm : m ≠ 0 := by
    rintro rfl
    exact absurd hdivisor (by decide)
  split
  · next hshift =>
    have hup : (exponent - e).toNat ≤ 52 + topExponent := by omega
    refine isFinite_ofRatio false hm ?_
    calc mantissa * 2 ^ (exponent - e).toNat ≤ (2 ^ 53 - 1) * 2 ^ (52 + topExponent) :=
          Nat.mul_le_mul hmantissa (Nat.pow_le_pow_right (by decide) hup)
      _ = 2 ^ 52 * maxFinite := by rw [maxFinite, Nat.pow_add, Nat.mul_left_comm]
      _ ≤ m * maxFinite := Nat.mul_le_mul_right _ hdivisor
  · have hden : m * 2 ^ (-(exponent - e)).toNat ≠ 0 := Nat.mul_ne_zero hm (Nat.two_pow_pos _).ne'
    refine isFinite_ofRatio false hden ?_
    calc mantissa ≤ maxFinite := le_maxFinite (by omega)
      _ ≤ m * 2 ^ (-(exponent - e)).toNat * maxFinite :=
          Nat.le_mul_of_pos_left _ (Nat.pos_of_ne_zero hden)

/-- The result of scaling is finite, or it is that of scaling on with less fuel. -/
theorem scaleStepwise_cases {fuel : ℕ} {x y : Binary64} {exponent : ℤ}
    (h : scaleStepwise fuel x exponent = some y) :
    y.isFinite = true ∨ ∃ less next rest, fuel = less + 1 ∧
      scaleStepwise less next rest = some y := by
  rw [scaleStepwise.eq_def] at h
  split at h
  · next negative mantissa binary hmeaning =>
    split at h
    · cases h
      exact .inl ((isFinite_iff x).2 ⟨_, _, _, hmeaning⟩)
    · split at h
      · split at h
        · -- scaling up checks its result
          dsimp only at h
          split at h
          · next hfinite =>
            cases h
            exact .inl hfinite
          · cases h
        · cases h
      · split at h
        · next hdown =>
          cases h
          exact .inl (isFinite_scaleByTen hmeaning (Int.toNat_le.2 hdown))
        · split at h
          · cases h
            exact .inl (isFinite_ofMagnitude false (by decide))
          · next less => exact .inr ⟨less, _, _, rfl, h⟩
  · cases h

/-- Scaling by a power of ten has a finite result, or none. -/
theorem isFinite_scaleStepwise {fuel : ℕ} {x y : Binary64} {exponent : ℤ}
    (h : scaleStepwise fuel x exponent = some y) : y.isFinite = true := by
  induction fuel generalizing x exponent with
  | zero =>
    rcases scaleStepwise_cases h with hfinite | ⟨less, next, rest, hless, hscale⟩
    · exact hfinite
    · exact absurd hless (Nat.succ_ne_zero less).symm
  | succ fuel ih =>
    rcases scaleStepwise_cases h with hfinite | ⟨less, next, rest, hless, hscale⟩
    · exact hfinite
    · cases hless
      exact ih hscale

/-- A decimal number that has a value has a finite one. -/
theorem isFinite_ofParts {negative : Bool} {significand : ℕ} {exponent : ℤ} {x : Binary64}
    (h : ofParts negative significand exponent = some x) : x.isFinite = true := by
  obtain ⟨y, hy, rfl⟩ := Option.map_eq_some_iff.1 h
  exact isFinite_withSign negative (isFinite_scaleStepwise hy)

end Binary64

end TableQuery

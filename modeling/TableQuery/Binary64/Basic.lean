import TableQuery.Decimal.Basic

/-!
# Double-precision numbers

A double is its 64-bit word: a sign, eleven exponent bits and a 52-bit fraction. Arithmetic is done
exactly on natural numbers and rounded once, to the nearest double with ties to the even one, so
that every result is a function of the words alone.
-/

namespace TableQuery

/-- A double-precision number, given by its word. -/
structure Binary64 where
  /-- Sign, exponent and fraction bits, from high to low. -/
  bits : UInt64
  deriving DecidableEq, Repr, Inhabited

/-- What a word denotes. -/
inductive Binary64.Meaning where
  /-- Not a number. -/
  | nan
  /-- An infinity. -/
  | infinite (negative : Bool)
  /-- The number `mantissa · 2 ^ exponent` with a sign. -/
  | finite (negative : Bool) (mantissa : Nat) (exponent : Int)
  deriving DecidableEq, Repr

/-- A binary floating-point format: how wide its mantissa is and where its numbers end. -/
structure BinaryFormat where
  /-- Bits of the mantissa, the leading one included. -/
  precision : Nat
  /-- Exponent of the last bit of the smallest numbers. -/
  minExponent : Int
  /-- The word of infinity, without its sign. -/
  infinity : Nat

/-- The double-precision format. -/
def BinaryFormat.double : BinaryFormat := ⟨53, -1074, 0x7FF0000000000000⟩

/-- The single-precision format. -/
def BinaryFormat.single : BinaryFormat := ⟨24, -149, 0x7F800000⟩

/-- A quotient rounded to the nearest whole number, a half going to the even neighbour. -/
def roundHalfEven (num den : Nat) : Nat :=
  let q := num / den
  let r := num % den
  if 2 * r < den then q
  else if den < 2 * r then q + 1
  else if q % 2 = 0 then q else q + 1

/-- The word of the positive number of a format that is nearest to `num / den`; infinity when the
quotient is too large. The words of a format's positive numbers are consecutive, so a mantissa that
rounds up to the next power of two carries into the exponent by itself. -/
def BinaryFormat.nearest (fmt : BinaryFormat) (num den : Nat) : Nat :=
  if num = 0 then 0
  else
    let k : Int := (Nat.log2 num : Int) - Nat.log2 den
    let reached := if 0 ≤ k then den * Nat.pow 2 k.toNat ≤ num else den ≤ num * Nat.pow 2 (-k).toNat
    let top := if reached then k + 1 else k
    let exponent := max (top - fmt.precision) fmt.minExponent
    let mantissa :=
      if 0 ≤ exponent then roundHalfEven num (den * Nat.pow 2 exponent.toNat)
      else roundHalfEven (num * Nat.pow 2 (-exponent).toNat) den
    let word := (exponent - fmt.minExponent).toNat * Nat.pow 2 (fmt.precision - 1) + mantissa
    min word fmt.infinity

namespace Binary64

/-- The sign bit. -/
def isNegative (x : Binary64) : Bool :=
  x.bits >>> 63 == 1

/-- The word without its sign. -/
def magnitude (x : Binary64) : Nat :=
  (x.bits &&& 0x7FFFFFFFFFFFFFFF).toNat

/-- The double with a given sign and the word of its absolute value. -/
def ofMagnitude (negative : Bool) (word : Nat) : Binary64 :=
  ⟨if negative then UInt64.ofNat (word % 0x8000000000000000) ||| 0x8000000000000000
   else UInt64.ofNat (word % 0x8000000000000000)⟩

/-- Split a word that is no infinity and no NaN into mantissa and exponent. -/
def splitMagnitude (fmt : BinaryFormat) (word : Nat) : Nat × Int :=
  let unit := Nat.pow 2 (fmt.precision - 1)
  let biased := word / unit
  if biased = 0 then (word, fmt.minExponent)
  else (word % unit + unit, fmt.minExponent + biased - 1)

/-- What the word denotes. -/
def meaning (x : Binary64) : Meaning :=
  if x.magnitude < BinaryFormat.double.infinity then
    let (mantissa, exponent) := splitMagnitude .double x.magnitude
    .finite x.isNegative mantissa exponent
  else if x.magnitude = BinaryFormat.double.infinity then .infinite x.isNegative
  else .nan

/-- The number is neither infinite nor NaN. -/
def isFinite (x : Binary64) : Bool :=
  x.magnitude < BinaryFormat.double.infinity

/-- A number is finite exactly when its meaning is a mantissa and an exponent. -/
theorem isFinite_iff (x : Binary64) :
    x.isFinite = true ↔
      ∃ negative mantissa exponent, x.meaning = .finite negative mantissa exponent := by
  unfold isFinite meaning
  by_cases h : x.magnitude < BinaryFormat.double.infinity
  · simp [h]
  · by_cases e : x.magnitude = BinaryFormat.double.infinity <;> simp [h, e]

/-- Not a number, in its usual word. -/
def nan : Binary64 := ⟨0x7FF8000000000000⟩

/-- An infinity. -/
def infinity (negative : Bool) : Binary64 :=
  ofMagnitude negative BinaryFormat.double.infinity

/-- The double nearest to `± num / den`. -/
def ofRatio (negative : Bool) (num den : Nat) : Binary64 :=
  ofMagnitude negative (BinaryFormat.double.nearest num den)

/-- The double nearest to `± mantissa · 2 ^ exponent`. -/
def ofScaled (negative : Bool) (mantissa : Nat) (exponent : Int) : Binary64 :=
  if 0 ≤ exponent then ofRatio negative (mantissa * Nat.pow 2 exponent.toNat) 1
  else ofRatio negative mantissa (Nat.pow 2 (-exponent).toNat)

/-- The double nearest to an integer. -/
def ofInt (n : Int) : Binary64 :=
  ofRatio (n < 0) n.natAbs 1

/-- The number with its sign bit set as given. -/
def withSign (negative : Bool) (x : Binary64) : Binary64 :=
  ofMagnitude negative x.magnitude

end Binary64

end TableQuery

/-!
## Doubles from decimal text

Two ways to read a decimal number. The nearest reading rounds the exact decimal value once. The
stepwise reading, which documents use, rounds the digits and then the scaling by a power of ten;
the two differ in the last bit for some long numbers.
-/

namespace TableQuery.Binary64

open TableQuery.Decimal

/-- Decimal exponents past which every number of a format is zero or infinite. -/
def exponentBound : Int := 400

/-- The word of a format nearest to a positive decimal number. -/
def nearestDecimal (fmt : BinaryFormat) (coefficient : Nat) (exponent : Int) : Nat :=
  let place := (digits coefficient).length + exponent
  if coefficient = 0 || place < -exponentBound then 0
  else if exponentBound < place then fmt.infinity
  else if 0 ≤ exponent then fmt.nearest (coefficient * Nat.pow 10 exponent.toNat) 1
  else fmt.nearest coefficient (Nat.pow 10 (-exponent).toNat)

/-- The double nearest to a decimal number. -/
def ofScientific (d : Scientific) : Binary64 :=
  ofMagnitude d.negative (nearestDecimal .double d.coefficient d.exponent)

/-- The single-precision number nearest to a decimal number, as the double of the same value. -/
def ofScientificSingle (d : Scientific) : Binary64 :=
  let word := nearestDecimal .single d.coefficient d.exponent
  if word = BinaryFormat.single.infinity then infinity d.negative
  else
    let (mantissa, exponent) := splitMagnitude .single word
    ofScaled d.negative mantissa exponent

/-- The names of the numbers that digits cannot express, in any case and with an optional sign. -/
def readName? (cs : List Char) : Option Binary64 :=
  let (negative, name) := takeSign cs
  match String.ofList (name.map Char.toLower) with
  | "nan" => some (nan.withSign negative)
  | "inf" | "infinity" => some (infinity negative)
  | _ => none

/-- Read a double, rounding to nearest. -/
def read? (cs : List Char) : Option Binary64 :=
  match Scientific.read? cs with
  | some d => some (ofScientific d)
  | none => readName? cs

/-- Read a single-precision number and widen it. -/
def readSingle? (cs : List Char) : Option Binary64 :=
  match Scientific.read? cs with
  | some d => some (ofScientificSingle d)
  | none => readName? cs

/-- A finite double times or divided by a power of ten that is itself rounded to a double. -/
def scaleByTen (mantissa : Nat) (exponent : Int) (up : Bool) (power : Nat) : Binary64 :=
  let (m, e) := splitMagnitude .double (nearestDecimal .double 1 power)
  if up then ofScaled false (mantissa * m) (exponent + e)
  else
    let shift := exponent - e
    if 0 ≤ shift then ofRatio false (mantissa * Nat.pow 2 shift.toNat) m
    else ofRatio false mantissa (m * Nat.pow 2 (-shift).toNat)

/-- The largest power of ten among the doubles. -/
def maxPower : Nat := 308

/-- Scale a positive double by a power of ten, rounding at each step. Large negative powers are
taken in steps of `10 ^ 308`; a large positive power makes any number but zero overflow, which is
no result. -/
def scaleStepwise (fuel : Nat) (x : Binary64) (exponent : Int) : Option Binary64 :=
  match x.meaning with
  | .finite _ mantissa binary =>
    if mantissa = 0 then some x
    else if 0 ≤ exponent then
      if exponent ≤ maxPower then
        let y := scaleByTen mantissa binary true exponent.toNat
        if y.isFinite then some y else none
      else none
    else if -exponent ≤ maxPower then some (scaleByTen mantissa binary false (-exponent).toNat)
    else
      match fuel with
      | 0 => some (ofMagnitude false 0)
      | fuel + 1 =>
        scaleStepwise fuel (scaleByTen mantissa binary false maxPower) (exponent + maxPower)
  | _ => none

/-- The stepwise value of `significand · 10 ^ exponent`: the significand is rounded to a double
first. No result on overflow; four steps down take any significand of 64 bits to zero. -/
def ofParts (negative : Bool) (significand : Nat) (exponent : Int) : Option Binary64 :=
  (scaleStepwise 4 (ofInt significand) exponent).map (withSign negative)

end TableQuery.Binary64

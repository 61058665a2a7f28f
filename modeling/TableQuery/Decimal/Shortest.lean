import TableQuery.Binary64.Basic
import TableQuery.Decimal.Basic

/-!
# Shortest digits of a double

The fewest decimal digits that read back as the same double, and among those the nearest to it. A
double stands for an interval of reals; on the decimal grids with one, two, … digits the two
neighbours of the double are tested against that interval in exact arithmetic.
-/

namespace TableQuery.Decimal

/-- Digits `d₁ d₂ …` with the point in front of the first of them, scaled by `10 ^ point`. -/
structure Significant where
  /-- The digits, the first and the last of them not zero. -/
  digits : List Char
  /-- Number of digits in front of the point; negative for leading zeros after it. -/
  point : Int
  deriving DecidableEq, Repr

/-- The reals that round to one double, as quotients over a common denominator. -/
structure RoundingInterval where
  /-- Numerator of the lower end. -/
  lower : Nat
  /-- Numerator of the double itself. -/
  centre : Nat
  /-- Numerator of the upper end. -/
  upper : Nat
  /-- Common denominator. -/
  scale : Nat
  /-- The two ends belong to the interval. -/
  closed : Bool

/-- The interval of a positive double `mantissa · 2 ^ exponent`. Below a power of two the next
double is only half as far away. -/
def RoundingInterval.ofBinary (mantissa : Nat) (exponent : Int) : RoundingInterval :=
  let below :=
    if mantissa = Nat.pow 2 52 && BinaryFormat.double.minExponent < exponent then 1 else 2
  let up := if 2 ≤ exponent then Nat.pow 2 (exponent - 2).toNat else 1
  let scale := if 2 ≤ exponent then 1 else Nat.pow 2 (2 - exponent).toNat
  ⟨(4 * mantissa - below) * up, 4 * mantissa * up, (4 * mantissa + 2) * up, scale,
    mantissa % 2 = 0⟩

/-- The point of a decimal grid lies in the interval, both given over one denominator. -/
def RoundingInterval.covers (i : RoundingInterval) (unit candidate point : Nat) : Bool :=
  if i.closed then i.lower * unit ≤ candidate * point && candidate * point ≤ i.upper * unit
  else i.lower * unit < candidate * point && candidate * point < i.upper * unit

/-- Number of digits in front of the decimal point of the double. -/
def RoundingInterval.place (i : RoundingInterval) : Int :=
  if i.scale ≤ i.centre then (digits (i.centre / i.scale)).length
  else 1 - (digits (i.scale / i.centre)).length

/-- The grid neighbour of the double that lies in its interval, the nearer one if both do. A tie
goes to the even neighbour or to the upper one. -/
def RoundingInterval.onGrid (i : RoundingInterval) (tieToEven : Bool) (grid : Int) : Option Nat :=
  let unit := if grid < 0 then Nat.pow 10 (-grid).toNat else 1
  let point := i.scale * if grid < 0 then 1 else Nat.pow 10 grid.toNat
  let low := i.centre * unit / point
  let lowFits := i.covers unit low point
  let highFits := i.covers unit (low + 1) point
  let fromLow := i.centre * unit - low * point
  let fromHigh := (low + 1) * point - i.centre * unit
  let preferLow := fromLow < fromHigh || (fromLow == fromHigh && tieToEven && low % 2 == 0)
  if lowFits && (preferLow || !highFits) then some low
  else if highFits then some (low + 1)
  else none

/-- The first grid that has a hit, tried from `count` digits on. -/
def RoundingInterval.search (i : RoundingInterval) (tieToEven : Bool) : Nat → Int → Nat × Int
  | 0, grid => (i.centre / i.scale, grid)
  | fuel + 1, grid =>
    match i.onGrid tieToEven grid with
    | some n => (n, grid)
    | none => i.search tieToEven fuel (grid - 1)

/-- The digits of a number without the zeros at its end. -/
def significantDigits (n : Nat) : List Char :=
  ((digits n).reverse.dropWhile (· == '0')).reverse

/-- The shortest digits of a positive double `mantissa · 2 ^ exponent`. Seventeen digits always
suffice. -/
def shortest (tieToEven : Bool) (mantissa : Nat) (exponent : Int) : Significant :=
  let i := RoundingInterval.ofBinary mantissa exponent
  let (n, grid) := i.search tieToEven 17 (i.place - 1)
  ⟨significantDigits n, (digits n).length + grid⟩

/-!
## Written form of doubles

How shortest digits are laid out: where positional notation ends, what a whole number ends in, and
the texts of the values that have no digits. Documents and plain display use two different layouts.
-/

/-- The decisions of a number format. -/
structure Layout where
  /-- Least point position that is written without an exponent, if there is a limit. -/
  minPoint : Option Int
  /-- Greatest point position that is written without an exponent, if there is a limit. -/
  maxPoint : Option Int
  /-- What a whole number ends in. -/
  wholeMark : List Char
  /-- Of two equally near candidates the even one is taken, otherwise the upper one. -/
  tieToEven : Bool
  /-- The text of a value that is not a number. -/
  nan : String
  /-- The text of infinity, without its sign. -/
  infinity : String

/-- Numbers in documents: positional from 0.00001 up to 10^16, whole numbers end in `.0`, and values
without digits are null. -/
def Layout.document : Layout :=
  ⟨some (-4), some 16, ['.', '0'], true, "null", "null"⟩

/-- Numbers on display: always positional, whole numbers bare. -/
def Layout.display : Layout :=
  ⟨none, none, [], false, "NaN", "inf"⟩

/-- Digits around a point, with zeros where the point lies outside them. -/
def positional (wholeMark : List Char) (s : Significant) : List Char :=
  if s.point ≤ 0 then ['0', '.'] ++ List.replicate (-s.point).toNat '0' ++ s.digits
  else
    let before := s.point.toNat
    if s.digits.length ≤ before then
      s.digits ++ List.replicate (before - s.digits.length) '0' ++ wholeMark
    else s.digits.take before ++ '.' :: s.digits.drop before

/-- One digit, a point if more follow, and the power of ten with its sign. -/
def exponential (s : Significant) : List Char :=
  let power := s.point - 1
  let mark := if power < 0 then ['e', '-'] else ['e', '+']
  (match s.digits with
    | [] => []
    | [d] => [d]
    | d :: ds => d :: '.' :: ds) ++ mark ++ digits power.natAbs

/-- The digits written as the layout decides. -/
def Layout.write (layout : Layout) (s : Significant) : List Char :=
  let tooSmall := match layout.minPoint with
    | some bound => s.point < bound
    | none => false
  let tooLarge := match layout.maxPoint with
    | some bound => bound < s.point
    | none => false
  if tooSmall || tooLarge then exponential s else positional layout.wholeMark s

/-- The text of a double. Zero keeps its sign. -/
def Layout.text (layout : Layout) (x : Binary64) : String :=
  match x.meaning with
  | .nan => layout.nan
  | .infinite negative =>
    if negative && layout.infinity != layout.nan then "-" ++ layout.infinity else layout.infinity
  | .finite negative mantissa exponent =>
    let body :=
      if mantissa = 0 then '0' :: layout.wholeMark
      else layout.write (shortest layout.tieToEven mantissa exponent)
    String.ofList (if negative then '-' :: body else body)

end TableQuery.Decimal

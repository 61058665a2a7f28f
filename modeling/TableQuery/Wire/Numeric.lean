import TableQuery.Binary64.Basic
import TableQuery.Decimal.Basic

/-!
# Numbers of arbitrary precision

The server sends such a number as groups of four digits with the weight of the first group. A client
sees the decimal text, with as many places as the server declares, if the number is not too large.
-/

/-!
## Decimal numbers of limited size

Unsigned decimal numbers with a coefficient of at most 96 bits and a number of decimal places. Sums
keep as many places as the coefficient can hold.
-/

namespace TableQuery.Decimal

/-- The number `coefficient / 10 ^ scale`. -/
structure Fixed where
  /-- All digits, read as one whole number. -/
  coefficient : Nat
  /-- How many of the digits are decimal places. -/
  scale : Nat
  deriving DecidableEq, Repr, Inhabited

namespace Fixed

/-- The largest coefficient. -/
def maxCoefficient : Nat := Nat.pow 2 96 - 1

/-- The number zero. -/
def zero : Fixed := ⟨0, 0⟩

/-- The number with the fewest places dropped, from `dropped` on, that makes its coefficient fit.
A half goes to the even neighbour. -/
def fitFrom (coefficient scale : Nat) : (left dropped : Nat) → Option Fixed
  | left, dropped =>
    let rounded := roundHalfEven coefficient (Nat.pow 10 dropped)
    if rounded ≤ maxCoefficient then some ⟨rounded, scale - dropped⟩
    else
      match left with
      | 0 => none
      | left + 1 => fitFrom coefficient scale left (dropped + 1)

/-- The number whose coefficient may be too large, with as many places as it can keep. -/
def fit? (coefficient scale : Nat) : Option Fixed :=
  fitFrom coefficient scale scale 0

/-- The coefficient for a larger number of places. -/
def raised (x : Fixed) (scale : Nat) : Nat :=
  x.coefficient * Nat.pow 10 (scale - x.scale)

/-- The sum of two numbers. Zero adds nothing, not even places. -/
def add? (x y : Fixed) : Option Fixed :=
  if x.coefficient = 0 then some y
  else if y.coefficient = 0 then some x
  else
    let scale := max x.scale y.scale
    fit? (x.raised scale + y.raised scale) scale

/-- The number with up to `places` more places, as long as its coefficient fits. -/
def extend (x : Fixed) : (places : Nat) → Fixed
  | 0 => x
  | places + 1 =>
    if x.coefficient * 10 ≤ maxCoefficient then
      Fixed.extend ⟨x.coefficient * 10, x.scale + 1⟩ places
    else x

/-- The number with a given number of places, or as many of them as its coefficient can hold.
Places that are dropped are rounded, a half up. -/
def rescale (x : Fixed) (scale : Nat) : Fixed :=
  if x.scale ≤ scale then x.extend (scale - x.scale)
  else
    let unit := Nat.pow 10 (x.scale - scale)
    ⟨(2 * x.coefficient + unit) / (2 * unit), scale⟩

/-- The digits with a point in front of the decimal places. -/
def chars (x : Fixed) : List Char :=
  let unit := Nat.pow 10 x.scale
  if x.scale = 0 then digits x.coefficient
  else digits (x.coefficient / unit) ++ '.' :: padded x.scale (x.coefficient % unit)

end Fixed

end TableQuery.Decimal

/-! ## Groups of four digits -/

namespace TableQuery

/-- A number as the server sends it. -/
inductive Numeric where
  /-- Not a number. -/
  | nan
  /-- The sum of the groups, the first one counting `10000 ^ weight` and each further one a
  ten-thousandth of the one before, with a sign and a declared number of places. -/
  | number (negative : Bool) (weight : Int) (groups : List Nat) (scale : Nat)
  deriving DecidableEq, Repr, Inhabited

/-- Why a number cannot be read. -/
inductive NumericFault where
  /-- It is not a number. -/
  | notANumber
  /-- It has too many digits. -/
  | tooLarge
  deriving DecidableEq, Repr

/-- The wording of a fault. -/
def NumericFault.message : NumericFault → String
  | .notANumber => "Decimal does not support NaN values"
  | .tooLarge => "value not representable as rust_decimal::Decimal"

namespace Numeric

/-- Digits of a group. -/
def groupWidth : Nat := 4

/-- The values of the groups of a run of digits, whose length is a multiple of the width. -/
def groupValues (fuel : Nat) (ds : List Char) : List Nat :=
  match fuel, ds with
  | fuel + 1, _ :: _ =>
    Decimal.value (ds.take groupWidth) :: groupValues fuel (ds.drop groupWidth)
  | _, _ => []

/-- The groups without the zero groups at both ends, and the weight of the first one left. -/
def trimGroups (weight : Int) (groups : List Nat) : Int × List Nat :=
  let kept := groups.dropWhile (· = 0)
  (weight - ((groups.length - kept.length : Nat) : Int),
    (kept.reverse.dropWhile (· = 0)).reverse)

/-- The number that has these digits before and behind the point. -/
def ofDigits (negative : Bool) (whole fraction : List Char) : Numeric :=
  let front := List.replicate ((groupWidth - whole.length % groupWidth) % groupWidth) '0' ++ whole
  let back :=
    fraction ++ List.replicate ((groupWidth - fraction.length % groupWidth) % groupWidth) '0'
  let all := front ++ back
  let (weight, groups) :=
    trimGroups ((front.length / groupWidth : Nat) - 1) (groupValues all.length all)
  .number negative weight groups fraction.length

/-- Read a decimal text: a sign, digits, and a point with the decimal places; or `NaN`. -/
def read? (cs : List Char) : Option Numeric :=
  if cs = "NaN".toList then some .nan
  else
    let (negative, body) := match cs with
      | '-' :: rest => (true, rest)
      | '+' :: rest => (false, rest)
      | _ => (false, cs)
    let whole := body.takeWhile Char.isDigit
    match body.dropWhile Char.isDigit with
    | [] => if whole.isEmpty then none else some (ofDigits negative whole [])
    | '.' :: fraction =>
      if fraction.all Char.isDigit && !(whole.isEmpty && fraction.isEmpty) then
        some (ofDigits negative whole fraction)
      else none
    | _ => none

/-- The largest weight, up or down, of a group that can be read. -/
def maxWeight : Nat := 7

/-- What a group adds to the number, unless its place is out of reach. -/
def groupPart? (weight : Int) (group : Nat) : Option Decimal.Fixed :=
  if maxWeight < weight.natAbs then none
  else if 0 ≤ weight then Decimal.Fixed.fit? (group * Nat.pow 10 (groupWidth * weight.natAbs)) 0
  else some ⟨group, groupWidth * weight.natAbs⟩

/-- The sum of what has been read and the groups that follow. -/
def sumGroups? (sum : Decimal.Fixed) (weight : Int) : List Nat → Option Decimal.Fixed
  | [] => some sum
  | group :: groups => do
    sumGroups? (← sum.add? (← groupPart? weight group)) (weight - 1) groups

/-- The decimal text of a number. Zero has no places, whatever is declared. -/
def text : Numeric → Except NumericFault String
  | .nan => .error .notANumber
  | .number _ _ [] _ => .ok "0"
  | .number negative weight groups scale =>
    match sumGroups? .zero weight groups with
    | none => .error .tooLarge
    | some sum =>
      .ok (String.ofList ((if negative then ['-'] else []) ++ (sum.rescale scale).chars))

end Numeric

end TableQuery

/-!
# Decimal digits

Whole numbers as runs of ASCII digits: the value of a run, the run of a number, zero-padding, and
the signed readings that arguments and settings allow.
-/

namespace TableQuery.Decimal

/-- The number that a run of digits denotes; the empty run denotes zero. -/
def value (ds : List Char) : Nat :=
  Nat.ofDigitChars 10 ds 0

/-- The digits of a number, without leading zeros. -/
def digits (n : Nat) : List Char :=
  Nat.toDigits 10 n

/-- The digits of a number denote it. -/
theorem value_digits (n : Nat) : value (digits n) = n :=
  Nat.ofDigitChars_toDigits (by decide) (by decide)

/-- The digits of a number, with zeros in front up to `width`. -/
def padded (width n : Nat) : List Char :=
  List.replicate (width - (digits n).length) '0' ++ digits n

/-- The text of a natural number. -/
def natText (n : Nat) : String :=
  String.ofList (digits n)

/-- The characters of an integer: a minus sign for a negative one, then its digits. -/
def intChars (n : Int) : List Char :=
  if n < 0 then '-' :: digits n.natAbs else digits n.natAbs

/-- The text of an integer. -/
def intText (n : Int) : String :=
  String.ofList (intChars n)

/-- A nonempty run of digits. -/
def isDigits (cs : List Char) : Bool :=
  !cs.isEmpty && cs.all Char.isDigit

/-- Read a natural number: digits after an optional plus sign. -/
def readNat? (cs : List Char) : Option Nat :=
  let ds := match cs with
    | '+' :: rest => rest
    | _ => cs
  if isDigits ds then some (value ds) else none

/-- Read an integer: digits after an optional sign. -/
def readInt? (cs : List Char) : Option Int :=
  match cs with
  | '-' :: rest => if isDigits rest then some (-(value rest : Int)) else none
  | _ => (readNat? cs).map Int.ofNat

/-- Read a natural number of at most `bits` bits. -/
def readUnsigned? (bits : Nat) (cs : List Char) : Option Nat :=
  (readNat? cs).filter (· < Nat.pow 2 bits)

/-- Read an integer that fits a signed word of `bits` bits. -/
def readSigned? (bits : Nat) (cs : List Char) : Option Int :=
  (readInt? cs).filter fun n => -Int.pow 2 (bits - 1) ≤ n && n < Int.pow 2 (bits - 1)

/-!
## Decimal fractions

Signed decimal numbers with an optional point and exponent, read into a coefficient and a power of
ten.
-/

/-- The number `coefficient · 10 ^ exponent`, with a sign that zero keeps as well. -/
structure Scientific where
  /-- The number carries a minus sign. -/
  negative : Bool
  /-- All digits of the number, read as one whole number. -/
  coefficient : Nat
  /-- Power of ten that the coefficient is scaled by. -/
  exponent : Int
  deriving DecidableEq, Repr

/-- The sign of a text and what follows it. -/
def takeSign : List Char → Bool × List Char
  | '-' :: rest => (true, rest)
  | '+' :: rest => (false, rest)
  | cs => (false, cs)

/-- Read an exponent part, `e` or `E` with signed digits; no part at all means zero. -/
def readExponent? : List Char → Option Int
  | [] => some 0
  | c :: rest =>
    if c = 'e' || c = 'E' then
      let (negative, ds) := takeSign rest
      if isDigits ds then
        some (if negative then -(value ds : Int) else (value ds : Int))
      else none
    else none

/-- Read a sign, digits with an optional point, and an optional exponent. At least one digit must
stand beside the point, on either side. -/
def Scientific.read? (cs : List Char) : Option Scientific :=
  let (negative, body) := takeSign cs
  let whole := body.takeWhile Char.isDigit
  let rest := body.dropWhile Char.isDigit
  let (fraction, tail) := match rest with
    | '.' :: after => (after.takeWhile Char.isDigit, after.dropWhile Char.isDigit)
    | _ => ([], rest)
  if whole.isEmpty && fraction.isEmpty then none
  else (readExponent? tail).map fun exponent =>
    ⟨negative, value (whole ++ fraction), exponent - fraction.length⟩

end TableQuery.Decimal

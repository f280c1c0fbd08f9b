/-! Numbers as binary formats hold them: a sign and a significand times a power of
two, or infinity. Everything is exact; rounding happens in one place, `nearest`,
which takes a quotient to the nearest number of a format and a tie to the even one. -/
namespace AppLifecycle.Decimal

/-- A binary format: the binary digits of a significand, and the exponents that its
last place can have. -/
structure Format where
  precision : Nat
  minExponent : Int
  maxExponent : Int
  deriving DecidableEq

namespace Format

/-- Single precision. -/
def single : Format := ⟨24, -149, 104⟩

/-- Double precision. -/
def double : Format := ⟨53, -1074, 971⟩

end Format

/-- The size of a number, its sign left out. -/
inductive Magnitude where
  /-- The significand times two to the power of the exponent. -/
  | finite (significand : Nat) (exponent : Int)
  | infinite
  deriving DecidableEq

/-- A number with its sign; zero has one too. -/
structure Binary where
  negative : Bool
  magnitude : Magnitude
  deriving DecidableEq

/-- The whole number nearest to a quotient, the even one of two that are equally near. -/
def roundQuotient (numerator denominator : Nat) : Nat :=
  let whole := numerator / denominator
  let rest := numerator % denominator
  if 2 * rest < denominator then whole
  else if denominator < 2 * rest then whole + 1
  else whole + whole % 2

/-- The quotient's numerator and denominator after division by a power of two. -/
def scaleQuotient (numerator denominator : Nat) (exponent : Int) : Nat × Nat :=
  match exponent with
  | .ofNat places => (numerator, denominator * Nat.pow 2 places)
  | .negSucc places => (numerator * Nat.pow 2 (places + 1), denominator)

/-- The exponent of the largest power of two that is at most the quotient. -/
def leadingExponent (numerator denominator : Nat) : Int :=
  let guess : Int := (numerator.log2 : Int) - denominator.log2
  let scaled := scaleQuotient numerator denominator guess
  if scaled.2 ≤ scaled.1 then guess else guess - 1

namespace Magnitude

def zero (format : Format) : Magnitude := finite 0 format.minExponent

/-- The number of the format that is nearest to a quotient. -/
def nearest (format : Format) (numerator denominator : Nat) : Magnitude :=
  if numerator = 0 then zero format
  else
    let exponent :=
      max (leadingExponent numerator denominator + 1 - format.precision) format.minExponent
    let scaled := scaleQuotient numerator denominator exponent
    let significand := roundQuotient scaled.1 scaled.2
    let carried := significand = Nat.pow 2 format.precision
    let exponent := if carried then exponent + 1 else exponent
    let significand := if carried then Nat.pow 2 (format.precision - 1) else significand
    if format.maxExponent < exponent then infinite else finite significand exponent

/-- The number as a quotient, none for infinity. -/
def toQuotient : Magnitude → Option (Nat × Nat)
  | finite significand (.ofNat places) => some (significand * Nat.pow 2 places, 1)
  | finite significand (.negSucc places) => some (significand, Nat.pow 2 (places + 1))
  | infinite => none

def isZero : Magnitude → Bool
  | finite significand _ => significand = 0
  | infinite => false

/-- The product in the format, infinite if a factor is. -/
def mul (format : Format) (left right : Magnitude) : Magnitude :=
  match left.toQuotient, right.toQuotient with
  | some (leftNumerator, leftDenominator), some (rightNumerator, rightDenominator) =>
    nearest format (leftNumerator * rightNumerator) (leftDenominator * rightDenominator)
  | _, _ => infinite

/-- The quotient in the format. A zero divisor or an infinite dividend gives
infinity, an infinite divisor zero. -/
def div (format : Format) (left right : Magnitude) : Magnitude :=
  match left.toQuotient, right.toQuotient with
  | some (leftNumerator, leftDenominator), some (rightNumerator, rightDenominator) =>
    if rightNumerator = 0 then infinite
    else nearest format (leftNumerator * rightDenominator) (leftDenominator * rightNumerator)
  | some _, none => zero format
  | none, _ => infinite

/-- The same number in another format, or the nearest to it. -/
def convert (format : Format) (magnitude : Magnitude) : Magnitude :=
  match magnitude.toQuotient with
  | some (numerator, denominator) => nearest format numerator denominator
  | none => infinite

/-- The fields of the interchange encoding without the sign: the biased exponent in
front of the places that follow the leading one. -/
def bits (format : Format) : Magnitude → Nat
  | finite significand exponent =>
    let hidden := Nat.pow 2 (format.precision - 1)
    if significand < hidden then significand
    else (exponent - format.minExponent + 1).toNat * hidden + (significand - hidden)
  | infinite =>
    (format.maxExponent - format.minExponent + 2).toNat * Nat.pow 2 (format.precision - 1)

end Magnitude

namespace Binary

/-- The number of the format nearest to a whole number. -/
def ofInt (format : Format) (value : Int) : Binary :=
  ⟨decide (value < 0), Magnitude.nearest format value.natAbs 1⟩

/-- The same number in another format, or the nearest to it. -/
def convert (format : Format) (value : Binary) : Binary :=
  ⟨value.negative, value.magnitude.convert format⟩

/-- The interchange encoding, the sign in its highest place. -/
def bits (format : Format) (value : Binary) : Nat :=
  let sign := if value.negative then
    (format.maxExponent - format.minExponent + 3).toNat * Nat.pow 2 (format.precision - 1) else 0
  sign + value.magnitude.bits format

end Binary

end AppLifecycle.Decimal

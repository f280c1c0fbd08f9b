import AppLifecycle.Decimal.Shortest

/-! How a binary number is written. Numbers of middling size are written in positions
and always show a point; very large and very small ones show an exponent, which always
has a sign. The limits between the two belong to the format. -/
namespace AppLifecycle.Decimal

/-- The limits of positional writing, as exponents of the leading digit. -/
structure Limits where
  least : Int
  greatest : Int

/-- A single precision number is positional from a millionth to below ten billions
of thousands. -/
def Limits.single : Limits := ⟨-6, 12⟩

/-- A double precision number is positional from a hundred thousandth to sixteen
places before the point. -/
def Limits.double : Limits := ⟨-5, 15⟩

/-- The decimal digits of a number. -/
def digitsOf (value : Nat) : List Char := Nat.toDigits 10 value

/-- Writes digits around the point; `lead` is the exponent of the first of them. -/
def positional (digits : List Char) : Int → List Char
  | .ofNat lead =>
    let whole := digits.take (lead + 1) ++ List.replicate (lead + 1 - digits.length) '0'
    let fraction := digits.drop (lead + 1)
    whole ++ '.' :: (if fraction.isEmpty then ['0'] else fraction)
  | .negSucc zeros => '0' :: '.' :: (List.replicate zeros '0' ++ digits)

/-- Writes one digit, the others behind a point, and the exponent with its sign. -/
def scientific (digits : List Char) (lead : Int) : List Char :=
  let fraction := digits.drop 1
  digits.take 1 ++ (if fraction.isEmpty then [] else '.' :: fraction) ++
    'e' :: (if lead < 0 then '-' else '+') :: digitsOf lead.natAbs

/-- Writes a numeral that is not negative. -/
def Numeral.write (limits : Limits) (numeral : Numeral) : List Char :=
  let digits := digitsOf numeral.digits
  if numeral.digits = 0 then positional digits 0
  else
    let lead := numeral.exponent + digits.length - 1
    if limits.least ≤ lead ∧ lead ≤ limits.greatest then positional digits lead
    else scientific digits lead

/-- Writes a number of the format in the fewest digits that read back as it, none if
it is infinite. -/
def Binary.write? (format : Format) (limits : Limits) (value : Binary) : Option (List Char) :=
  match value.magnitude with
  | .finite significand exponent =>
    let text := (shortest format significand exponent).write limits
    some (if value.negative then '-' :: text else text)
  | .infinite => none

end AppLifecycle.Decimal

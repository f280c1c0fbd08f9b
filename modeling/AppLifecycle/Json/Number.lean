import AppLifecycle.Json.Token

/-! Numbers of JSON. A number without fraction and exponent is an integer as long as it
fits into 64 bits. Any other number is read into a significand of 64 bits, which takes
as many digits as fit, and a power of ten; its value is the significand in double
precision, multiplied or divided once by the power in double precision. -/
namespace AppLifecycle.Json

open Decimal

/-- A number as it was written. -/
inductive Number where
  | integer (value : Int)
  | decimal (value : Binary)
  deriving DecidableEq

/-- The number as something that can be found. -/
def Number.found : Number → Found
  | integer value => .integer value
  | decimal value => .decimal value

/-- The value of a decimal digit. -/
def digit? (c : Char) : Option Nat :=
  if '0' ≤ c ∧ c ≤ '9' then some (c.toNat - '0'.toNat) else none

def isDigit (c : Char) : Bool := (digit? c).isSome

/-- Whether a text starts with a digit. -/
def startsWithDigit : List Char → Bool
  | [] => false
  | c :: _ => isDigit c

/-- Drops digits. -/
def skipDigits (input : List Char) : List Char := input.dropWhile isDigit

/-- What is read of a number: the digits kept, the power of ten that they are to be
multiplied by, and whether a digit no longer fitted. -/
structure Significand where
  value : Nat
  exponent : Int := 0
  full : Bool := false

namespace Significand

/-- The largest value of a significand. -/
def limit : Nat := Nat.pow 2 64 - 1

/-- Takes up digits as long as they fit; `shift` says what each of them does to the
power of ten. Digits that no longer fit are left. -/
def takeDigits (shift : Int) : Significand → List Char → Significand × List Char
  | significand, [] => (significand, [])
  | significand, c :: rest =>
    match digit? c with
    | none => (significand, c :: rest)
    | some digit =>
      if limit < significand.value * 10 + digit then ({ significand with full := true }, c :: rest)
      else takeDigits shift
        { significand with
          value := significand.value * 10 + digit
          exponent := significand.exponent + shift } rest

end Significand

/-- A power of ten in double precision. -/
def powerOfTen (exponent : Nat) : Magnitude := Magnitude.nearest .double (Nat.pow 10 exponent) 1

/-- Divides by the largest power of ten again and again, until nothing is left. -/
def divideDown (value : Magnitude) : Nat → Magnitude
  | 0 => value
  | times + 1 =>
    if value.isZero then value else divideDown (value.div .double (powerOfTen 308)) times

/-- The significand times the power of ten, none if that is out of range. -/
def scale? (significand : Significand) : Option Magnitude :=
  let value := Magnitude.nearest .double significand.value 1
  match significand.exponent with
  | .ofNat exponent =>
    if value.isZero then some value
    else if 308 < exponent then none
    else
      let product := value.mul .double (powerOfTen exponent)
      if product = .infinite then none else some product
  | .negSucc exponent =>
    let times := exponent / 308
    some ((divideDown value times).div .double (powerOfTen (exponent + 1 - 308 * times)))

/-- Finishes a number that is not an integer. -/
def finishDecimal (negative : Bool) (significand : Significand) : Reader Number := fun rest =>
  match scale? significand with
  | some magnitude => .ok (.decimal ⟨negative, magnitude⟩, rest)
  | none => refuse .numberOutOfRange rest

/-- The largest exponent that is taken at its word. -/
def exponentLimit : Nat := Nat.pow 2 31 - 1

/-- Reads the digits of an exponent. Once they pass the limit a number either is out of
range or is zero, whatever digits follow. -/
def readExponentDigits (negative : Bool) (significand : Significand) (down : Bool) :
    Nat → Reader Number
  | exponent, [] => finish exponent []
  | exponent, c :: rest =>
    match digit? c with
    | none => finish exponent (c :: rest)
    | some digit =>
      if exponentLimit < exponent * 10 + digit then
        if significand.value ≠ 0 ∧ down = false then refuse .numberOutOfRange rest
        else .ok (.decimal ⟨negative, .zero .double⟩, skipDigits rest)
      else readExponentDigits negative significand down (exponent * 10 + digit) rest
where
  finish (exponent : Nat) : Reader Number :=
    let power : Int := if down then -exponent else exponent
    finishDecimal negative { significand with exponent := significand.exponent + power }

/-- Reads an exponent whose letter has been read. -/
def readExponent (negative : Bool) (significand : Significand) : Reader Number := fun input =>
  let (down, input) : Bool × List Char := match input with
    | '+' :: rest => (false, rest)
    | '-' :: rest => (true, rest)
    | rest => (false, rest)
  match input with
  | [] => refuseEnd .value
  | c :: rest =>
    match digit? c with
    | none => refuseNext .invalidNumber (c :: rest)
    | some digit => readExponentDigits negative significand down digit rest

/-- Reads an exponent if there is one. -/
def readOptionalExponent (negative : Bool) (significand : Significand) : Reader Number
  | 'e' :: rest => readExponent negative significand rest
  | 'E' :: rest => readExponent negative significand rest
  | rest => finishDecimal negative significand rest

/-- Reads a fraction whose point has been read. -/
def readFraction (negative : Bool) (significand : Significand) : Reader Number := fun input =>
  match input with
  | [] => refuseEnd .value
  | c :: _ =>
    match digit? c with
    | none => refuseNext .invalidNumber input
    | some _ =>
      let (significand, rest) := significand.takeDigits (-1) input
      readOptionalExponent negative significand (skipDigits rest)

/-- The integer with this significand, if it is one: 64 bits with a sign if it is
negative, without if not. Zero with a sign is no integer. -/
def wholeNumber (negative : Bool) (significand : Nat) : Number :=
  if negative then
    if 0 < significand ∧ significand ≤ Nat.pow 2 63 then .integer (-significand)
    else .decimal ⟨true, Magnitude.nearest .double significand 1⟩
  else .integer significand

/-- Reads what follows the digits in front of the point. -/
def readTail (negative : Bool) (significand : Significand) : Reader Number
  | '.' :: rest => readFraction negative significand rest
  | 'e' :: rest => readExponent negative significand rest
  | 'E' :: rest => readExponent negative significand rest
  | rest =>
    if significand.full then finishDecimal negative significand rest
    else .ok (wholeNumber negative significand.value, rest)

/-- Reads a number whose sign has been read. -/
def readUnsigned (negative : Bool) : Reader Number
  | [] => refuseEnd .value
  | c :: rest =>
    match digit? c with
    | none => refuseNext .invalidNumber (c :: rest)
    | some 0 =>
      if startsWithDigit rest then refuseNext .invalidNumber rest
      else readTail negative { value := 0 } rest
    | some first =>
      let (significand, left) := Significand.takeDigits 0 { value := first } rest
      let exponent : Int := (left.takeWhile isDigit).length
      readTail negative { significand with exponent } (skipDigits left)

/-- Reads a number. -/
def readNumber : Reader Number
  | '-' :: rest => readUnsigned true rest
  | input => readUnsigned false input

end AppLifecycle.Json

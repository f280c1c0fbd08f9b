import AppLifecycle.Decimal.Binary

/-! The shortest decimal that reads back as a given binary number. A number owns the
interval of all values that round to it, ends included when its significand is even.
Grids of one, two, three and more digits are tried in turn; the first that has a point
inside wins, and of two points the nearer. All arithmetic is on whole numbers. -/
namespace AppLifecycle.Decimal

/-- The value `digits · 10 ^ exponent`. -/
structure Numeral where
  digits : Nat
  exponent : Int
  deriving DecidableEq

/-- Values that round to one number, all in units of one power of ten. -/
structure Interval where
  low : Nat
  middle : Nat
  high : Nat
  /-- Whether the ends belong to the interval. -/
  closed : Bool
  /-- The unit is ten to this power. -/
  unit : Int

namespace Interval

/-- Whether a value lies inside. -/
def contains (interval : Interval) (value : Nat) : Bool :=
  if interval.closed then interval.low ≤ value && value ≤ interval.high
  else interval.low < value && value < interval.high

/-- The interval of a finite nonzero number. The gap below a power of two is half the
gap above it, unless it is the format's smallest. -/
def ofFinite (format : Format) (significand : Nat) (exponent : Int) : Interval :=
  let narrow := significand = Nat.pow 2 (format.precision - 1) ∧ format.minExponent < exponent
  let low := 4 * significand - (if narrow then 1 else 2)
  let middle := 4 * significand
  let high := 4 * significand + 2
  let closed := significand % 2 = 0
  match exponent - 2 with
  | .ofNat places =>
    let factor := Nat.pow 2 places
    ⟨low * factor, middle * factor, high * factor, closed, 0⟩
  | .negSucc places =>
    let factor := Nat.pow 5 (places + 1)
    ⟨low * factor, middle * factor, high * factor, closed, .negSucc places⟩

/-- The point of the grid with the given step that lies inside and is nearest to the
middle; of two equally near points the one with the even multiple. -/
def pick? (interval : Interval) (step : Nat) : Option Nat :=
  let below := interval.middle / step
  let above := below + 1
  match interval.contains (below * step), interval.contains (above * step) with
  | false, false => none
  | true, false => some below
  | false, true => some above
  | true, true =>
    let under := interval.middle - below * step
    let beyond := above * step - interval.middle
    if under < beyond then some below
    else if beyond < under then some above
    else some (below + below % 2)

/-- Tries ever finer grids; `places` is how many decimal places the step still has
above the unit. -/
def search (interval : Interval) : Nat → Numeral
  | 0 => ⟨interval.middle, interval.unit⟩
  | places + 1 =>
    match interval.pick? (Nat.pow 10 (places + 1)) with
    | some digits => ⟨digits, interval.unit + (places + 1)⟩
    | none => interval.search places

end Interval

/-- Drops zeros at the end of the digits; as many as asked for at most. -/
def Numeral.trim (numeral : Numeral) : Nat → Numeral
  | 0 => numeral
  | fuel + 1 =>
    if numeral.digits ≠ 0 ∧ numeral.digits % 10 = 0 then
      Numeral.trim ⟨numeral.digits / 10, numeral.exponent + 1⟩ fuel
    else numeral

/-- The shortest decimal for a finite number of the format. -/
def shortest (format : Format) (significand : Nat) (exponent : Int) : Numeral :=
  if significand = 0 then ⟨0, 0⟩
  else
    let interval := Interval.ofFinite format significand exponent
    let places := (toString interval.middle).length
    (interval.search places).trim places

end AppLifecycle.Decimal

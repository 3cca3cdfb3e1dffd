import Courier.Number.Binary

/-!
# The shortest decimal that reads back

A finite float is written with the fewest digits that no other float is closer to, and of
those with the digits closest to it. Where two are equally close, the format decides by a
`Tie`. All arithmetic is exact: the interval of numbers that round to the float is compared
with the decimal grids, from coarse to fine.
-/

namespace Courier

/-- The number `digits * 10 ^ exponent`. -/
structure Decimal where
  digits : Nat
  exponent : Int
deriving DecidableEq

/-- Which of two equally close neighbours is taken: the upper one, or the one whose last digit
is even. -/
inductive Tie where
  | up
  | toEven
deriving DecidableEq

/-- The choice between `below` and the number after it. -/
def Tie.choose (below : Nat) : Tie → Nat
  | .up => below + 1
  | .toEven => below + below % 2

namespace Decimal

/-- The numbers that round to a float, in quarters of its last place: the float itself,
the two ends, and whether the ends belong to it. -/
structure Interval where
  low : Nat
  middle : Nat
  high : Nat
  closed : Bool

/-- The interval around `significand * 2 ^ exponent`. Below a power of two the floats lie
twice as close. -/
def interval (f : Binary) (significand : Nat) (exponent : Int) : Interval where
  low := if significand = 2 ^ f.fractionBits ∧ f.leastExponent < exponent
    then 4 * significand - 1 else 4 * significand - 2
  middle := 4 * significand
  high := 4 * significand + 2
  closed := significand % 2 = 0

/-- Whether `n` units of `unit` lie in an interval whose quarters are `quarter` wide. -/
def Interval.holds (i : Interval) (quarter unit n : Nat) : Bool :=
  if i.closed then i.low * quarter ≤ n * unit && n * unit ≤ i.high * quarter
  else i.low * quarter < n * unit && n * unit < i.high * quarter

/-- The point of the grid of multiples of `unit` that lies in the interval, the nearer of two. -/
def Interval.gridPoint? (i : Interval) (tie : Tie) (quarter unit : Nat) : Option Nat :=
  let below := i.middle * quarter / unit
  let distance := i.middle * quarter - below * unit
  match i.holds quarter unit below, i.holds quarter unit (below + 1) with
  | true, true => some (
    if 2 * distance < unit then below
    else if 2 * distance = unit then tie.choose below
    else below + 1)
  | true, false => some below
  | false, true => some (below + 1)
  | false, false => none

/-- Tries the grids `10 ^ k`, `10 ^ (k - 1)`, … until one has a point in the interval. -/
def search (i : Interval) (tie : Tie) (exponent : Int) : Nat → Int → Option Decimal
  | 0, _ => none
  | fuel + 1, k =>
    let quarter := 2 ^ (exponent - 2).toNat * 10 ^ (-k).toNat
    let unit := 2 ^ (2 - exponent).toNat * 10 ^ k.toNat
    match i.gridPoint? tie quarter unit with
    | some digits => some ⟨digits, k⟩
    | none => search i tie exponent fuel (k - 1)

/-- The shortest decimal for a positive float; a format with `n` bits of fraction never
needs more than `n` grids below the first power of ten above the float. -/
def shortest (f : Binary) (tie : Tie) (significand : Nat) (exponent : Int) : Decimal :=
  let top := ((significand.log2 + 2 + exponent) * 30103) / 100000 + 1
  (search (interval f significand exponent) tie exponent (f.fractionBits + 4) top).getD ⟨0, 0⟩

/-- The digits without an exponent, and without a point where there is no fraction. -/
def plain (d : Decimal) : String :=
  let digits := toString d.digits
  let point := digits.length + d.exponent
  let zeros (n : Int) := "".pushn '0' n.toNat
  if 0 ≤ d.exponent then digits ++ zeros d.exponent
  else if 0 < point then
    (digits.take point.toNat).toString ++ "." ++ (digits.drop point.toNat).toString
  else "0." ++ zeros (-point) ++ digits

end Decimal

/-- A float as plain decimal digits, or by its name when it is not finite. A tie goes up. -/
def Binary.plain (f : Binary) (bits : Nat) : String :=
  match f.classify bits with
  | .notANumber => "NaN"
  | .infinite negative => if negative then "-inf" else "inf"
  | .finite negative significand exponent =>
    (if negative then "-" else "")
      ++ if significand = 0 then "0" else (Decimal.shortest f .up significand exponent).plain

end Courier

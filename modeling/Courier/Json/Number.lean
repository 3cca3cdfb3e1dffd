import Courier.Json.Value

/-!
# Numbers of JSON text

A number without point and exponent is an integer where the wire has it. Any other number
is a float: the digits that fit 64 bits, scaled by a power of ten with one rounding each.

* `Number.toJson?` fails only on a float that is too large.
-/

namespace Courier.Json

/-- A number as it is written: its digits before and after the point, and its exponent. -/
structure Number where
  negative : Bool
  whole : List Nat
  fraction : Option (List Nat)
  exponent : Option Int

namespace Number

/-- Takes digits onto `n` while the number fits 64 bits; returns it with the rest of them. -/
def takeDigits (n : Nat) : List Nat → Nat × List Nat
  | [] => (n, [])
  | d :: ds => if n * 10 + d < 2 ^ 64 then takeDigits (n * 10 + d) ds else (n, d :: ds)

/-- The float closest to a power of ten. -/
def powerOfTen (n : Nat) : Nat :=
  Binary.double.nearest (10 ^ n) 1

/-- A float times `10 ^ exponent`, by at most so many divisions by `10 ^ 308`; nothing when
it is too large. -/
def scale : Nat → Nat → Int → Option Nat
  | fuel, bits, exponent =>
    if exponent.natAbs ≤ 308 then
      let power := powerOfTen exponent.natAbs
      if exponent < 0 then some (Binary.double.dividedBy bits power)
      else
        let scaled := Binary.double.times bits power
        if scaled < Binary.double.infinity then some scaled else none
    else if bits = 0 then some 0
    else if 0 < exponent then none
    else match fuel with
      | 0 => some 0
      | fuel + 1 => scale fuel (Binary.double.dividedBy bits (powerOfTen 308)) (exponent + 308)

/-- The float with the given sign and magnitude. -/
def signed (negative : Bool) (magnitude : Nat) : Json :=
  .float (UInt64.ofNat (magnitude + if negative then Binary.double.signBit else 0))

/-- The document that a written number stands for. Two divisions by `10 ^ 308` leave nothing
of a number of 64 bits. -/
def toJson? (n : Number) : Option Json :=
  let (whole, dropped) := takeDigits 0 n.whole
  match n.fraction, n.exponent, dropped with
  | none, none, [] =>
    let i : Int := if n.negative then -whole else whole
    match WireInt.ofInt? i with
    | some i => if n.negative ∧ whole = 0 then some (signed true 0) else some (.int i)
    | none => some (signed n.negative (Binary.double.nearest whole 1))
  | fraction, exponent, dropped =>
    let digits := fraction.getD []
    let (significand, unread) := takeDigits whole digits
    let exponent := exponent.getD 0 + dropped.length - (digits.length - unread.length : Nat)
    (scale 3 (Binary.double.nearest significand 1) exponent).map (signed n.negative)

end Number

end Courier.Json

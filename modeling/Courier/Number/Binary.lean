import Courier.Number.Power

/-!
# Binary floating point

A float is its bit pattern. `classify` reads the pattern as an exact number, and `nearest`
goes back: the pattern of the float closest to a quotient of naturals, ties to even.

* `Binary.double` and `Binary.single` are the formats of eight and four octets.
* `times` and `dividedBy` round once, from the exact product or quotient.
-/

namespace Courier

/-- A binary format: the widths of its exponent and fraction fields. -/
structure Binary where
  exponentBits : Nat
  fractionBits : Nat

namespace Binary

/-- The format of eight octets. -/
def double : Binary := ⟨11, 52⟩

/-- The format of four octets. -/
def single : Binary := ⟨8, 23⟩

/-- What a bit pattern stands for; a finite number is `significand * 2 ^ exponent`. -/
inductive Reading where
  | notANumber
  | infinite (negative : Bool)
  | finite (negative : Bool) (significand : Nat) (exponent : Int)

variable (f : Binary)

/-- The exponent of the last place of the smallest numbers. -/
def leastExponent : Int :=
  2 - 2 ^ (f.exponentBits - 1) - f.fractionBits

/-- The pattern of positive infinity. -/
def infinity : Nat :=
  (2 ^ f.exponentBits - 1) * 2 ^ f.fractionBits

/-- The pattern of negative zero: the sign alone. -/
def signBit : Nat :=
  2 ^ (f.exponentBits + f.fractionBits)

/-- Reads a bit pattern. -/
def classify (bits : Nat) : Reading :=
  let negative := decide (f.signBit ≤ bits)
  let magnitude := bits % f.signBit
  let field := magnitude / 2 ^ f.fractionBits
  let fraction := magnitude % 2 ^ f.fractionBits
  if f.infinity < magnitude then .notANumber
  else if magnitude = f.infinity then .infinite negative
  else if field = 0 then .finite negative fraction f.leastExponent
  else .finite negative (2 ^ f.fractionBits + fraction) (f.leastExponent + (field - 1))

/-- The natural closest to a quotient, the even one of two. -/
def roundQuotient (num den : Nat) : Nat :=
  let q := num / den
  let twice := 2 * (num % den)
  if twice < den then q
  else if den < twice then q + 1
  else if q % 2 = 0 then q else q + 1

/-- The pattern of the float closest to `num / den`, infinity when it is too large. -/
def nearest (num den : Nat) : Nat :=
  if num = 0 then 0 else
    -- the quotient is at least `2 ^ top` and below `2 ^ (top + 2)`
    let top : Int := num.log2 - den.log2 - 1
    let scaled (q : Int) : Nat := roundQuotient (num * 2 ^ (-q).toNat) (den * 2 ^ q.toNat)
    let q := max (top - f.fractionBits) f.leastExponent
    let q := if scaled q < 2 ^ (f.fractionBits + 1) then q else q + 1
    min f.infinity ((q - f.leastExponent).toNat * 2 ^ f.fractionBits + scaled q)

/-- A positive finite number as a quotient of naturals. -/
def quotient (significand : Nat) (exponent : Int) : Nat × Nat :=
  (significand * 2 ^ exponent.toNat, 2 ^ (-exponent).toNat)

/-- The quotient that a positive finite pattern stands for. -/
def toQuotient (bits : Nat) : Nat × Nat :=
  match f.classify bits with
  | .finite _ significand exponent => quotient significand exponent
  | _ => (0, 1)

/-- The rounded product of two positive finite floats. -/
def times (a b : Nat) : Nat :=
  let (an, ad) := f.toQuotient a
  let (bn, bd) := f.toQuotient b
  f.nearest (an * bn) (ad * bd)

/-- The rounded quotient of two positive finite floats, the second of them not zero. -/
def dividedBy (a b : Nat) : Nat :=
  let (an, ad) := f.toQuotient a
  let (bn, bd) := f.toQuotient b
  f.nearest (an * bd) (ad * bn)

/-- Whether a pattern is neither infinite nor a NaN. -/
def isFinite (bits : Nat) : Bool :=
  bits % f.signBit < f.infinity

/-- Whether a pattern is a NaN. -/
def isNaN (bits : Nat) : Bool :=
  f.infinity < bits % f.signBit

/-- Whether two patterns are equal as numbers: a NaN equals nothing, and the zeros are equal. -/
def same (a b : Nat) : Bool :=
  !f.isNaN a && !f.isNaN b && (a == b || (a % f.signBit == 0 && b % f.signBit == 0))

end Binary

/-- The pattern of eight octets for the number that a pattern of four stands for. -/
def widen (bits : UInt32) : UInt64 :=
  match Binary.single.classify bits.toNat with
  | .notANumber => UInt64.ofNat (Binary.double.infinity + 1)
  | .infinite negative =>
    UInt64.ofNat (Binary.double.infinity + if negative then Binary.double.signBit else 0)
  | .finite negative significand exponent =>
    let (num, den) := Binary.quotient significand exponent
    UInt64.ofNat (Binary.double.nearest num den + if negative then Binary.double.signBit else 0)

end Courier

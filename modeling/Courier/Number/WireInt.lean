import Courier.Number.Power

/-!
# Integers on the wire

Both formats carry the integers from `-2 ^ 63` to `2 ^ 64 - 1`: eight octets, signed when
the number is negative.

* `ofInt?_eq_some_iff`: the wire's form of an integer, where there is one, is that integer.
-/

namespace Courier

/-- An integer that eight octets can hold, signed when it is negative. -/
structure WireInt where
  val : Int
  lower : -2 ^ 63 ≤ val
  upper : val < 2 ^ 64
deriving DecidableEq

namespace WireInt

/-- The wire's form of an integer, if it has one. -/
def ofInt? (i : Int) : Option WireInt :=
  if h : -2 ^ 63 ≤ i ∧ i < 2 ^ 64 then some ⟨i, h.1, h.2⟩ else none

/-- The wire's form of an unsigned word. -/
def ofUInt64 (n : UInt64) : WireInt :=
  ⟨n.toNat, by omega, by have := n.toNat_lt; omega⟩

/-- The number, if it is not negative. -/
def toNat? (i : WireInt) : Option Nat :=
  if 0 ≤ i.val then some i.val.toNat else none

theorem ofInt?_val (i : WireInt) : ofInt? i.val = some i :=
  dif_pos ⟨i.lower, i.upper⟩

theorem val_of_ofInt? {i : Int} {w : WireInt} (h : ofInt? i = some w) : w.val = i := by
  unfold ofInt? at h
  split at h
  · cases h; rfl
  · cases h

/-- **The form of an integer is unique**, and it is that integer. -/
theorem ofInt?_eq_some_iff {i : Int} {w : WireInt} : ofInt? i = some w ↔ w.val = i :=
  ⟨val_of_ofInt?, fun h => h ▸ ofInt?_val w⟩

end WireInt

end Courier

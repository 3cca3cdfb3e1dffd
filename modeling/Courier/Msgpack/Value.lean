import Courier.Text.Utf8
import Courier.Number.Binary
import Courier.Number.WireInt

/-!
# Values of the binary format

A value is what one segment of a frame holds. Floats are bit patterns, so that a NaN keeps
its payload, and a text is held as octets, since the format does not check them.

* `Value.levels` counts the nested containers, the measure by which reading is limited.
* `Value.same` is equality as numbers compare: no NaN equals itself, and the zeros are equal.
-/

namespace Courier

/-- A value of the binary format. -/
inductive Value where
  | nil
  | bool (b : Bool)
  | int (i : WireInt)
  | float32 (bits : UInt32)
  | float64 (bits : UInt64)
  | text (octets : Octets)
  | binary (octets : Octets)
  | extension (type : Int8) (octets : Octets)
  | array (items : List Value)
  | map (entries : List (Value × Value))
deriving Inhabited

namespace Value

/-- The value of a text. -/
def ofString (s : String) : Value :=
  .text (Utf8.encode s)

/-- The text of a value, if it is one. -/
def string? : Value → Option String
  | .text octets => Utf8.decode? octets
  | _ => none

/-- The value of an unsigned word. -/
def ofUInt64 (n : UInt64) : Value :=
  .int (.ofUInt64 n)

mutual

/-- How many arrays, maps and extensions are nested in a value. -/
def levels : Value → Nat
  | .extension _ _ => 1
  | .array items => levelsOfItems 0 items + 1
  | .map entries => levelsOfEntries 0 entries + 1
  | _ => 0

/-- The greatest number of levels among items, at least `most`. -/
def levelsOfItems (most : Nat) : List Value → Nat
  | [] => most
  | v :: vs => levelsOfItems (max most v.levels) vs

/-- The greatest number of levels among keys and values, at least `most`. -/
def levelsOfEntries (most : Nat) : List (Value × Value) → Nat
  | [] => most
  | (k, v) :: es => levelsOfEntries (max (max most k.levels) v.levels) es

end

mutual

/-- Equality as numbers compare: no NaN equals itself, and the zeros are equal. -/
def same : Value → Value → Bool
  | .nil, .nil => true
  | .bool a, .bool b => a == b
  | .int a, .int b => a == b
  | .float32 a, .float32 b => Binary.single.same a.toNat b.toNat
  | .float64 a, .float64 b => Binary.double.same a.toNat b.toNat
  | .text a, .text b => a == b
  | .binary a, .binary b => a == b
  | .extension s a, .extension t b => s == t && a == b
  | .array as, .array bs => sameItems as bs
  | .map as, .map bs => sameEntries as bs
  | _, _ => false

/-- Two lists of values, item by item. -/
def sameItems : List Value → List Value → Bool
  | [], [] => true
  | a :: as, b :: bs => a.same b && sameItems as bs
  | _, _ => false

/-- Two lists of entries, key by key and value by value. -/
def sameEntries : List (Value × Value) → List (Value × Value) → Bool
  | [], [] => true
  | (k, v) :: as, (l, w) :: bs => k.same l && v.same w && sameEntries as bs
  | _, _ => false

end

end Value

end Courier

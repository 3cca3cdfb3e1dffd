import Courier.Msgpack.Value

/-!
# Writing values

Every value is written in its shortest form. A text that is not UTF-8 has no form of its
own and is written as binary.

* `encode_array`, `encode_map`: a container is its head, then its parts in order.
-/

namespace Courier.Msgpack

open Octets (bigEndian)

/-- An unsigned number below `2 ^ 64`. -/
def encodeNat (n : Nat) : Octets :=
  if n < 2 ^ 7 then [UInt8.ofNat n]
  else if n < 2 ^ 8 then 0xCC :: bigEndian 1 n
  else if n < 2 ^ 16 then 0xCD :: bigEndian 2 n
  else if n < 2 ^ 32 then 0xCE :: bigEndian 4 n
  else 0xCF :: bigEndian 8 n

/-- The negative number `-(n + 1)`, at least `-2 ^ 63`. -/
def encodeNegative (n : Nat) : Octets :=
  if n < 2 ^ 5 then [UInt8.ofNat (2 ^ 8 - 1 - n)]
  else if n < 2 ^ 7 then 0xD0 :: bigEndian 1 (2 ^ 8 - 1 - n)
  else if n < 2 ^ 15 then 0xD1 :: bigEndian 2 (2 ^ 16 - 1 - n)
  else if n < 2 ^ 31 then 0xD2 :: bigEndian 4 (2 ^ 32 - 1 - n)
  else 0xD3 :: bigEndian 8 (2 ^ 64 - 1 - n)

/-- An integer. -/
def encodeInt (i : WireInt) : Octets :=
  match i.val with
  | .ofNat n => encodeNat n
  | .negSucc n => encodeNegative n

/-- What stands before the octets of a text. -/
def textHead (n : Nat) : Octets :=
  if n < 2 ^ 5 then [UInt8.ofNat (0xA0 + n)]
  else if n < 2 ^ 8 then 0xD9 :: bigEndian 1 n
  else if n < 2 ^ 16 then 0xDA :: bigEndian 2 n
  else 0xDB :: bigEndian 4 n

/-- What stands before the octets of a binary. -/
def binaryHead (n : Nat) : Octets :=
  if n < 2 ^ 8 then 0xC4 :: bigEndian 1 n
  else if n < 2 ^ 16 then 0xC5 :: bigEndian 2 n
  else 0xC6 :: bigEndian 4 n

/-- What stands before the type and the octets of an extension. -/
def extensionHead (n : Nat) : Octets :=
  if n = 1 then [0xD4]
  else if n = 2 then [0xD5]
  else if n = 4 then [0xD6]
  else if n = 8 then [0xD7]
  else if n = 16 then [0xD8]
  else if n < 2 ^ 8 then 0xC7 :: bigEndian 1 n
  else if n < 2 ^ 16 then 0xC8 :: bigEndian 2 n
  else 0xC9 :: bigEndian 4 n

/-- What stands before the items of an array. -/
def arrayHead (n : Nat) : Octets :=
  if n < 2 ^ 4 then [UInt8.ofNat (0x90 + n)]
  else if n < 2 ^ 16 then 0xDC :: bigEndian 2 n
  else 0xDD :: bigEndian 4 n

/-- What stands before the entries of a map. -/
def mapHead (n : Nat) : Octets :=
  if n < 2 ^ 4 then [UInt8.ofNat (0x80 + n)]
  else if n < 2 ^ 16 then 0xDE :: bigEndian 2 n
  else 0xDF :: bigEndian 4 n

/-- A binary. -/
def encodeBinary (b : Octets) : Octets :=
  binaryHead b.length ++ b

/-- A text, written as binary when it is not UTF-8. -/
def encodeText (b : Octets) : Octets :=
  if Utf8.isText b then textHead b.length ++ b else encodeBinary b

mutual

/-- The octets of a value. -/
def encode : Value → Octets
  | .nil => [0xC0]
  | .bool b => [if b then 0xC3 else 0xC2]
  | .int i => encodeInt i
  | .float32 bits => 0xCA :: bigEndian 4 bits.toNat
  | .float64 bits => 0xCB :: bigEndian 8 bits.toNat
  | .text b => encodeText b
  | .binary b => encodeBinary b
  | .extension type b => extensionHead b.length ++ type.toUInt8 :: b
  | .array items => arrayHead items.length ++ encodeItems [] items
  | .map entries => mapHead entries.length ++ encodeEntries [] entries

/-- The octets of the items, after those collected in reverse in `done`. -/
def encodeItems (done : Octets) : List Value → Octets
  | [] => done.reverse
  | v :: vs => encodeItems ((encode v).reverseAux done) vs

/-- The octets of the keys and values, after those collected in reverse in `done`. -/
def encodeEntries (done : Octets) : List (Value × Value) → Octets
  | [] => done.reverse
  | (k, v) :: es => encodeEntries ((encode v).reverseAux ((encode k).reverseAux done)) es

end

theorem encodeItems_eq (done : Octets) (vs : List Value) :
    encodeItems done vs = done.reverse ++ vs.flatMap encode := by
  induction vs generalizing done with
  | nil => simp [encodeItems]
  | cons v vs ih => simp [encodeItems, ih, List.reverseAux_eq]

theorem encodeEntries_eq (done : Octets) (es : List (Value × Value)) :
    encodeEntries done es = done.reverse ++ es.flatMap fun e => encode e.1 ++ encode e.2 := by
  induction es generalizing done with
  | nil => simp [encodeEntries]
  | cons e es ih => simp [encodeEntries, ih, List.reverseAux_eq]

/-- An array is its head, then its items in order. -/
theorem encode_array (vs : List Value) :
    encode (.array vs) = arrayHead vs.length ++ vs.flatMap encode := by
  simp [encode, encodeItems_eq]

/-- A map is its head, then each key with its value in order. -/
theorem encode_map (es : List (Value × Value)) :
    encode (.map es) = mapHead es.length ++ es.flatMap fun e => encode e.1 ++ encode e.2 := by
  simp [encode, encodeEntries_eq]

end Courier.Msgpack

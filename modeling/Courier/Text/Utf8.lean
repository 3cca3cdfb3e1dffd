import Courier.Octets

/-!
# UTF-8

Text on the wire is UTF-8. `decode?` turns octets into text when they are well formed,
and `fault?` finds the first place where they are not: the position and length of the
longest octet string that begins a character and cannot be completed.

* `decode?_encode`: every text survives the wire.
* `encode_of_decode?`: only the encoding of a text is read as that text.
-/

namespace Courier.Utf8

/-- The octets of a text. -/
def encode (s : String) : Octets :=
  s.toByteArray.data.toList

/-- The text whose octets are given, if they are well formed. -/
def decode? (b : Octets) : Option String :=
  String.fromUTF8? ⟨b.toArray⟩

/-- Whether the octets are well-formed UTF-8. -/
def isText (b : Octets) : Bool :=
  (decode? b).isSome

@[simp] theorem decode?_encode (s : String) : decode? (encode s) = some s := by
  have h : (⟨(encode s).toArray⟩ : ByteArray) = s.toByteArray := by simp [encode]
  simp only [decode?, String.fromUTF8?, h]
  rw [dif_pos s.isValidUTF8]
  rfl

theorem encode_of_decode? {b : Octets} {s : String} (h : decode? b = some s) : encode s = b := by
  simp only [decode?, String.fromUTF8?] at h
  split at h
  · cases h
    simp [encode, String.fromUTF8]
  · cases h

/-- Where octets stop being UTF-8. -/
structure Fault where
  /-- Length of the longest well-formed beginning. -/
  index : Nat
  /-- Length of the ill-formed part, or nothing when the input ends inside a character. -/
  length : Option Nat
deriving DecidableEq

/-- The ranges that the octets after a leading octet must lie in; nothing if no
character begins with that octet. -/
def continuations (lead : UInt8) : Option (List (UInt8 × UInt8)) :=
  if lead < 0x80 then some []
  else if lead < 0xC2 then none
  else if lead < 0xE0 then some [(0x80, 0xBF)]
  else if lead = 0xE0 then some [(0xA0, 0xBF), (0x80, 0xBF)]
  else if lead = 0xED then some [(0x80, 0x9F), (0x80, 0xBF)]
  else if lead < 0xF0 then some [(0x80, 0xBF), (0x80, 0xBF)]
  else if lead = 0xF0 then some [(0x90, 0xBF), (0x80, 0xBF), (0x80, 0xBF)]
  else if lead < 0xF4 then some [(0x80, 0xBF), (0x80, 0xBF), (0x80, 0xBF)]
  else if lead = 0xF4 then some [(0x80, 0x8F), (0x80, 0xBF), (0x80, 0xBF)]
  else none

/-- How far octets follow the ranges of a character. -/
inductive Progress where
  /-- The character is complete; these octets follow it. -/
  | complete (rest : Octets)
  /-- The input ends inside the character. -/
  | ended
  /-- An octet that does not fit stands after so many that do. -/
  | broken (fitting : Nat)

/-- Follows the ranges of one character, `fitting` octets of which have been seen. -/
def follow (fitting : Nat) : List (UInt8 × UInt8) → Octets → Progress
  | [], rest => .complete rest
  | _ :: _, [] => .ended
  | (low, high) :: ranges, octet :: rest =>
    if low ≤ octet ∧ octet ≤ high then follow (fitting + 1) ranges rest else .broken fitting

/-- The first fault of `b`, which stands `index` octets into the input; each of the at
most `fuel` characters takes at least one octet. -/
def faultFrom : Nat → Nat → Octets → Option Fault
  | _, _, [] => none
  | 0, _, _ :: _ => none
  | fuel + 1, index, lead :: rest =>
    match continuations lead with
    | none => some ⟨index, some 1⟩
    | some ranges =>
      match follow 1 ranges rest with
      | .complete rest => faultFrom fuel (index + 1 + ranges.length) rest
      | .ended => some ⟨index, none⟩
      | .broken n => some ⟨index, some n⟩

/-- The first place where the octets are not UTF-8. -/
def fault? (b : Octets) : Option Fault :=
  faultFrom b.length 0 b

/-- Names the place and, where there is one, the length of the ill-formed part. -/
def Fault.message (f : Fault) : String :=
  match f.length with
  | some n => "invalid utf-8 sequence of " ++ toString n ++ " bytes from index " ++ toString f.index
  | none => "incomplete utf-8 byte sequence from index " ++ toString f.index

end Courier.Utf8

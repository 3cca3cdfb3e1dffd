import Courier.Text.Utf8

/-!
# Percent decoding

`%XY` with two hexadecimal digits stands for one octet. Any other `%` stands for itself,
and so does a single hexadecimal digit after it.
-/

namespace Courier.Percent

/-- The value of a hexadecimal digit of either case. -/
def hexValue? (b : UInt8) : Option UInt8 :=
  if 0x30 ≤ b ∧ b ≤ 0x39 then some (b - 0x30)
  else if 0x41 ≤ b ∧ b ≤ 0x46 then some (b - 0x37)
  else if 0x61 ≤ b ∧ b ≤ 0x66 then some (b - 0x57)
  else none

/-- Replaces the escapes, collecting the octets in reverse on top of `done`. -/
def unescapeFrom (done : Octets) : Octets → Octets
  | 0x25 :: high :: low :: rest =>
    match hexValue? high, hexValue? low with
    | some h, some l => unescapeFrom ((h * 16 + l) :: done) rest
    | some _, none => unescapeFrom (high :: 0x25 :: done) (low :: rest)
    | none, _ => unescapeFrom (0x25 :: done) (high :: low :: rest)
  | octet :: rest => unescapeFrom (octet :: done) rest
  | [] => done.reverse

/-- The octets that an escaped text stands for. -/
def unescape (b : Octets) : Octets :=
  unescapeFrom [] b

/-- The text that an escaped text stands for, or the place where it is not UTF-8. -/
def decode (s : String) : Except Utf8.Fault String :=
  let octets := unescape (Utf8.encode s)
  match Utf8.decode? octets with
  | some text => .ok text
  | none => .error ((Utf8.fault? octets).getD ⟨0, none⟩)

end Courier.Percent

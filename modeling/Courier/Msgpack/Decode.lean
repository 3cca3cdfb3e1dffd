import Courier.Msgpack.Value

/-!
# Reading values

The first octet of a value says what follows it. Every width is accepted, not only the
shortest. A text that is not UTF-8 is read as binary, and a value nested deeper than the
reader allows is refused, like one that ends early.

* `read` takes one value from the front and returns what follows it.
* `maxLevels` is how many arrays, maps and extensions may be nested around a value.
-/

namespace Courier.Msgpack

/-- How the length of a value is given. -/
inductive Size where
  /-- By the first octet itself. -/
  | stated (n : Nat)
  /-- By a number of this width after the first octet. -/
  | field (width : Nat)

/-- What the first octet of a value announces. -/
inductive Head where
  | nil
  | bool (b : Bool)
  | immediate (i : Int)
  | unsigned (width : Nat)
  | signed (width : Nat)
  | float32
  | float64
  | text (size : Size)
  | binary (size : Size)
  | extension (size : Size)
  | array (size : Size)
  | map (size : Size)

/-- What an octet announces; one octet is reserved and begins no value. -/
def Head.ofOctet? (octet : UInt8) : Option Head :=
  let n := octet.toNat
  if n < 0x80 then some (.immediate n)
  else if n < 0x90 then some (.map (.stated (n - 0x80)))
  else if n < 0xA0 then some (.array (.stated (n - 0x90)))
  else if n < 0xC0 then some (.text (.stated (n - 0xA0)))
  else if 0xE0 ≤ n then some (.immediate (n - 0x100))
  else match n with
    | 0xC0 => some .nil
    | 0xC2 => some (.bool false)
    | 0xC3 => some (.bool true)
    | 0xC4 => some (.binary (.field 1))
    | 0xC5 => some (.binary (.field 2))
    | 0xC6 => some (.binary (.field 4))
    | 0xC7 => some (.extension (.field 1))
    | 0xC8 => some (.extension (.field 2))
    | 0xC9 => some (.extension (.field 4))
    | 0xCA => some .float32
    | 0xCB => some .float64
    | 0xCC => some (.unsigned 1)
    | 0xCD => some (.unsigned 2)
    | 0xCE => some (.unsigned 4)
    | 0xCF => some (.unsigned 8)
    | 0xD0 => some (.signed 1)
    | 0xD1 => some (.signed 2)
    | 0xD2 => some (.signed 4)
    | 0xD3 => some (.signed 8)
    | 0xD4 => some (.extension (.stated 1))
    | 0xD5 => some (.extension (.stated 2))
    | 0xD6 => some (.extension (.stated 4))
    | 0xD7 => some (.extension (.stated 8))
    | 0xD8 => some (.extension (.stated 16))
    | 0xD9 => some (.text (.field 1))
    | 0xDA => some (.text (.field 2))
    | 0xDB => some (.text (.field 4))
    | 0xDC => some (.array (.field 2))
    | 0xDD => some (.array (.field 4))
    | 0xDE => some (.map (.field 2))
    | 0xDF => some (.map (.field 4))
    | _ => none

/-- The length of a value and what follows its number. -/
def Size.read? (size : Size) (b : Octets) : Option (Nat × Octets) :=
  match size with
  | .stated n => some (n, b)
  | .field width => Octets.nat? width b

/-- The octets of a value of the given size. -/
def Size.octets? (size : Size) (b : Octets) : Option (Octets × Octets) :=
  (size.read? b).bind fun (n, rest) => Octets.split? n rest

/-- The number that `width` octets stand for in two's complement. -/
def signedOf (width n : Nat) : Int :=
  if n < 2 ^ (8 * width - 1) then n else n - 2 ^ (8 * width)

/-- The integer announced by a head, if it announces one that the wire can carry. -/
def Head.int? (head : Head) (b : Octets) : Option (WireInt × Octets) :=
  match head with
  | .immediate i => (WireInt.ofInt? i).map (·, b)
  | .unsigned width => (Octets.nat? width b).bind fun (n, rest) =>
      (WireInt.ofInt? n).map (·, rest)
  | .signed width => (Octets.nat? width b).bind fun (n, rest) =>
      (WireInt.ofInt? (signedOf width n)).map (·, rest)
  | _ => none

/-- Takes `n` things from the front, collecting them in reverse on top of `done`. -/
def collect {α : Type} (item : Octets → Option (α × Octets)) (done : List α) :
    Nat → Octets → Option (List α × Octets)
  | 0, b => some (done.reverse, b)
  | n + 1, b =>
    match item b with
    | some (a, rest) => collect item (a :: done) n rest
    | none => none

/-- A key and its value. -/
def readEntry (item : Octets → Option (Value × Octets)) (b : Octets) :
    Option ((Value × Value) × Octets) :=
  (item b).bind fun (key, rest) => (item rest).map fun (value, rest) => ((key, value), rest)

/-- A text that is not UTF-8 is read as binary. -/
def textValue (b : Octets) : Value :=
  if Utf8.isText b then .text b else .binary b

/-- The value announced by a head, with `item` as the reader of what is nested in it; where
nothing may be nested, there is none. -/
def Head.value? (head : Head) (item : Option (Octets → Option (Value × Octets))) (b : Octets) :
    Option (Value × Octets) :=
  match head with
  | .nil => some (.nil, b)
  | .bool v => some (.bool v, b)
  | .immediate _ | .unsigned _ | .signed _ => (head.int? b).map fun (i, rest) => (.int i, rest)
  | .float32 => (Octets.nat? 4 b).map fun (n, rest) => (.float32 (UInt32.ofNat n), rest)
  | .float64 => (Octets.nat? 8 b).map fun (n, rest) => (.float64 (UInt64.ofNat n), rest)
  | .text size => (size.octets? b).map fun (octets, rest) => (textValue octets, rest)
  | .binary size => (size.octets? b).map fun (octets, rest) => (.binary octets, rest)
  | .extension size =>
    item.bind fun _ => (size.read? b).bind fun (n, rest) =>
      (Octets.split? (n + 1) rest).bind fun (octets, rest) =>
        match octets with
        | type :: octets => some (.extension type.toInt8 octets, rest)
        | [] => none
  | .array size =>
    item.bind fun item => (size.read? b).bind fun (n, rest) =>
      (collect item [] n rest).map fun (items, rest) => (.array items, rest)
  | .map size =>
    item.bind fun item => (size.read? b).bind fun (n, rest) =>
      (collect (readEntry item) [] n rest).map fun (entries, rest) => (.map entries, rest)

/-- A value with the given reader of what is nested in it. -/
def readWith (item : Option (Octets → Option (Value × Octets))) : Octets → Option (Value × Octets)
  | [] => none
  | octet :: rest => (Head.ofOctet? octet).bind fun head => head.value? item rest

/-- One value from the front, with at most so many nested levels, and what follows it. -/
def read : Nat → Octets → Option (Value × Octets)
  | 0 => readWith none
  | levels + 1 => readWith (some (read levels))

/-- How many arrays, maps and extensions may be nested around a value. -/
def maxLevels : Nat := 1023

end Courier.Msgpack

import Courier.Msgpack.Shape

/-!
# The format of values

A value may be written in more than one way, since most of its heads come in several widths. Here
the format stands on its own, beside the writer, which takes the shortest form, and the reader,
which takes any.

* `Announces`: what may stand in front of `n` octets, items or entries.
* `Numeral`: what may stand for an integer.
* `Spells`: **which octets stand for a value** that is nested in at most so many levels.
-/

namespace Courier.Msgpack

open Octets (bigEndian)

/-- What may stand in front of `n` things: one octet, counted from `first`, while `n` is below
`limit`, or one of the marks, each with `n` in as many octets as belong to it. -/
inductive Announces (first limit : Nat) (marks : List (UInt8 × Nat)) (n : Nat) : Octets → Prop where
  | short (h : n < limit) : Announces first limit marks n [UInt8.ofNat (first + n)]
  | wide (mark : UInt8) (width : Nat) (hmark : (mark, width) ∈ marks) (h : n < 256 ^ width) :
    Announces first limit marks n (mark :: bigEndian width n)

/-- In front of the octets of a text. -/
abbrev TextHead : Nat → Octets → Prop :=
  Announces 0xA0 32 [(0xD9, 1), (0xDA, 2), (0xDB, 4)]

/-- In front of the octets of a binary. -/
abbrev BinaryHead : Nat → Octets → Prop :=
  Announces 0 0 [(0xC4, 1), (0xC5, 2), (0xC6, 4)]

/-- In front of the items of an array. -/
abbrev ArrayHead : Nat → Octets → Prop :=
  Announces 0x90 16 [(0xDC, 2), (0xDD, 4)]

/-- In front of the entries of a map. -/
abbrev MapHead : Nat → Octets → Prop :=
  Announces 0x80 16 [(0xDE, 2), (0xDF, 4)]

/-- In front of the type and the octets of an extension. Five lengths have marks of their own. -/
inductive ExtensionHead (n : Nat) : Octets → Prop where
  | exact (mark : UInt8)
    (hmark : (mark, n) ∈ [(0xD4, 1), (0xD5, 2), (0xD6, 4), (0xD7, 8), ((0xD8 : UInt8), 16)]) :
    ExtensionHead n [mark]
  | wide {b : Octets} (h : Announces 0 0 [(0xC7, 1), (0xC8, 2), (0xC9, 4)] n b) : ExtensionHead n b

/-- The octets of an integer: a small one is a single octet, any other a mark and the integer in as
many octets as belong to the mark, in two's complement where it is signed. -/
inductive Numeral : Int → Octets → Prop where
  | small {n : Nat} (h : n < 2 ^ 7) : Numeral n [UInt8.ofNat n]
  | smallNegative {n : Nat} (h : n < 2 ^ 5) : Numeral (.negSucc n) [UInt8.ofNat (2 ^ 8 - 1 - n)]
  | unsigned (mark : UInt8) (width : Nat) {n : Nat}
    (hmark : (mark, width) ∈ [(0xCC, 1), (0xCD, 2), (0xCE, 4), ((0xCF : UInt8), 8)])
    (h : n < 256 ^ width) : Numeral n (mark :: bigEndian width n)
  | signed (mark : UInt8) (width : Nat) {n : Nat}
    (hmark : (mark, width) ∈ [(0xD0, 1), (0xD1, 2), (0xD2, 4), ((0xD3 : UInt8), 8)])
    (h : n < 2 ^ (8 * width - 1)) : Numeral n (mark :: bigEndian width n)
  | negative (mark : UInt8) (width : Nat) {n : Nat}
    (hmark : (mark, width) ∈ [(0xD0, 1), (0xD1, 2), (0xD2, 4), ((0xD3 : UInt8), 8)])
    (h : n < 2 ^ (8 * width - 1)) :
    Numeral (.negSucc n) (mark :: bigEndian width (2 ^ (8 * width) - 1 - n))

/-- **The octets stand for the value**, and at most so many arrays, maps and extensions are nested
in it. What stands between the parts of a container is nothing. -/
inductive Spells : Nat → Octets → Value → Prop where
  | nil {levels : Nat} : Spells levels [0xC0] .nil
  | bool {levels : Nat} (v : Bool) : Spells levels [if v then 0xC3 else 0xC2] (.bool v)
  | int {levels : Nat} {i : WireInt} {b : Octets} (h : Numeral i.val b) : Spells levels b (.int i)
  | float32 {levels : Nat} (bits : UInt32) :
    Spells levels (0xCA :: bigEndian 4 bits.toNat) (.float32 bits)
  | float64 {levels : Nat} (bits : UInt64) :
    Spells levels (0xCB :: bigEndian 8 bits.toNat) (.float64 bits)
  | text {levels : Nat} {head octets : Octets} (h : TextHead octets.length head) :
    Spells levels (head ++ octets) (.text octets)
  | binary {levels : Nat} {head octets : Octets} (h : BinaryHead octets.length head) :
    Spells levels (head ++ octets) (.binary octets)
  | extension {levels : Nat} {head octets : Octets} {type : Int8}
    (h : ExtensionHead octets.length head) :
    Spells (levels + 1) (head ++ type.toUInt8 :: octets) (.extension type octets)
  | array {levels : Nat} {head : Octets} {items : List (Octets × Value)}
    (h : ArrayHead items.length head) (hitems : ∀ item ∈ items, Spells levels item.1 item.2) :
    Spells (levels + 1) (head ++ items.flatMap (·.1)) (.array (items.map (·.2)))
  | map {levels : Nat} {head : Octets} {entries : List ((Octets × Value) × (Octets × Value))}
    (h : MapHead entries.length head)
    (hkeys : ∀ entry ∈ entries, Spells levels entry.1.1 entry.1.2)
    (hvalues : ∀ entry ∈ entries, Spells levels entry.2.1 entry.2.2) :
    Spells (levels + 1) (head ++ entries.flatMap fun entry => entry.1.1 ++ entry.2.1)
      (.map (entries.map fun entry => (entry.1.2, entry.2.2)))

variable {levels : Nat} {b : Octets} {v : Value}

/-- What is announced has a length of four octets. -/
theorem Announces.lt {first limit n : Nat} {marks : List (UInt8 × Nat)}
    (h : Announces first limit marks n b) (hlimit : limit ≤ 2 ^ 32)
    (hmarks : ∀ mark ∈ marks, mark.2 ≤ 4) : n < 2 ^ 32 := by
  cases h with
  | short h => exact Nat.lt_of_lt_of_le h hlimit
  | wide mark width hmark h =>
    exact Nat.lt_of_lt_of_le h (Nat.pow_le_pow_right (n := 256) (by decide) (hmarks _ hmark))

theorem ExtensionHead.lt {n : Nat} (h : ExtensionHead n b) : n < 2 ^ 32 := by
  cases h with
  | exact mark hmark =>
    simp only [List.mem_cons, Prod.mk.injEq, List.not_mem_nil, or_false] at hmark
    omega
  | wide h => exact h.lt (by decide) (by decide)

/-- Every length in a value that is written in some way has a form. -/
theorem Spells.fits (h : Spells levels b v) : v.fits = true := by
  induction h with
  | text h => exact Value.fits_text.2 (h.lt (by decide) (by decide))
  | binary h => exact Value.fits_binary.2 (h.lt (by decide) (by decide))
  | extension h => exact Value.fits_extension.2 h.lt
  | array h hitems ih =>
    rw [Value.fits_array, List.length_map, List.forall_mem_map]
    exact ⟨h.lt (by decide) (by decide), ih⟩
  | map h hkeys hvalues ihk ihv =>
    rw [Value.fits_map, List.length_map, List.forall_mem_map]
    exact ⟨h.lt (by decide) (by decide), fun entry hentry => ⟨ihk entry hentry, ihv entry hentry⟩⟩
  | _ => rfl

end Courier.Msgpack

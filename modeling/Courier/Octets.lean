import Courier.Number.Power

/-!
# Octet strings

The wire carries octets. Numbers on it are big-endian and of a stated width, and a
length is followed by that many octets.

* `natOf_bigEndian`: a number below `256 ^ width` survives being written and read.
* `split?_eq_some_iff`: `split?` cuts off exactly as many octets as asked, or fails.
-/

namespace Courier

/-- A string of octets, as it stands on the wire. -/
abbrev Octets := List UInt8

namespace Octets

/-- The low `width` octets of `n`, the most significant first. -/
def bigEndian : Nat → Nat → Octets
  | 0, _ => []
  | width + 1, n => UInt8.ofNat (n / 256 ^ width) :: bigEndian width n

/-- The number whose big-endian digits are the given octets. -/
def natOf (b : Octets) : Nat :=
  b.foldl (fun n octet => n * 256 + octet.toNat) 0

/-- Cuts off the first `n` octets, collecting them on top of `taken`. -/
def splitFrom (taken : Octets) : Nat → Octets → Option (Octets × Octets)
  | 0, rest => some (taken.reverse, rest)
  | _ + 1, [] => none
  | n + 1, octet :: rest => splitFrom (octet :: taken) n rest

/-- The first `n` octets and what follows them; nothing if there are fewer. -/
def split? (n : Nat) (b : Octets) : Option (Octets × Octets) :=
  splitFrom [] n b

/-- A big-endian number of the given width at the front. -/
def nat? (width : Nat) (b : Octets) : Option (Nat × Octets) :=
  (split? width b).map fun (digits, rest) => (natOf digits, rest)

@[simp] theorem length_bigEndian (width n : Nat) : (bigEndian width n).length = width := by
  induction width with
  | zero => rfl
  | succ w ih => simp [bigEndian, ih]

theorem splitFrom_append (taken a b : Octets) :
    splitFrom taken a.length (a ++ b) = some (taken.reverse ++ a, b) := by
  induction a generalizing taken with
  | nil => simp [splitFrom]
  | cons octet a ih => simp [splitFrom, ih]

theorem eq_append_of_splitFrom {taken a b : Octets} {n : Nat} {c : Octets}
    (h : splitFrom taken n c = some (a, b)) :
    ∃ d, a = taken.reverse ++ d ∧ c = d ++ b ∧ d.length = n := by
  induction n generalizing taken c with
  | zero =>
    simp only [splitFrom, Option.some.injEq, Prod.mk.injEq] at h
    exact ⟨[], by simp [h.1.symm], by simp [h.2], rfl⟩
  | succ n ih =>
    cases c with
    | nil => simp [splitFrom] at h
    | cons octet c =>
      obtain ⟨d, hd, hc, hn⟩ := ih (by simpa [splitFrom] using h)
      exact ⟨octet :: d, by simp [hd], by simp [hc], by simp [hn]⟩

/-- **Cutting is exact**: the two parts make up the whole and the first has the asked length. -/
theorem split?_eq_some_iff {n : Nat} {a b c : Octets} :
    split? n c = some (a, b) ↔ c = a ++ b ∧ a.length = n := by
  constructor
  · intro h
    obtain ⟨d, rfl, hc, hn⟩ := eq_append_of_splitFrom h
    simpa using ⟨hc, hn⟩
  · rintro ⟨rfl, rfl⟩
    simp [split?, splitFrom_append]

theorem foldl_natOf (b : Octets) (n : Nat) :
    b.foldl (fun n octet => n * 256 + octet.toNat) n = n * 256 ^ b.length + natOf b := by
  unfold natOf
  induction b generalizing n with
  | nil => simp
  | cons octet b ih =>
    rw [List.foldl_cons, List.foldl_cons, ih, ih (0 * 256 + octet.toNat), List.length_cons,
      Nat.pow_succ, Nat.zero_mul, Nat.zero_add, Nat.add_mul, Nat.mul_assoc,
      Nat.mul_comm 256 (256 ^ b.length), Nat.add_assoc]

/-- Writing keeps the low octets: what is read back is the number modulo `256 ^ width`. -/
theorem natOf_bigEndian_mod (width n : Nat) : natOf (bigEndian width n) = n % 256 ^ width := by
  induction width with
  | zero => simp [bigEndian, natOf, Nat.mod_one]
  | succ w ih =>
    rw [bigEndian, natOf, List.foldl_cons, foldl_natOf, ih, length_bigEndian, Nat.pow_succ]
    have h : (UInt8.ofNat (n / 256 ^ w)).toNat = n / 256 ^ w % 256 := by simp
    rw [h, Nat.mod_mul, Nat.zero_mul, Nat.zero_add, Nat.mul_comm]
    omega

/-- **A number in range survives the wire.** -/
theorem natOf_bigEndian {width n : Nat} (h : n < 256 ^ width) : natOf (bigEndian width n) = n := by
  rw [natOf_bigEndian_mod, Nat.mod_eq_of_lt h]

end Octets

end Courier

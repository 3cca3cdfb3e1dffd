/-!
# Punycode

A text with non-ASCII characters written in ASCII: first its ASCII characters, then a hyphen if
there are any, then where the others are inserted. Insertions are in ascending order of the
characters, each as the distance from the one before it, in digits of base 36 whose weights
adapt to the distances seen so far.

* `encode` writes a text, and `decode?` reads it back.
-/

namespace Courier.Punycode

/-- The digit of a value below 36. -/
def digit (d : Nat) : Char :=
  Char.ofNat (if d < 26 then d + 97 else d + 22)

/-- The value of a digit. -/
def digitValue? (c : Char) : Option Nat :=
  if c.isLower then some (c.toNat - 97)
  else if c.isDigit then some (c.toNat - 22)
  else none

/-- The least value of a digit that is followed by another one. -/
def threshold (bias place : Nat) : Nat :=
  min 26 (max 1 (place - bias))

theorem threshold_pos (bias place : Nat) : 1 ≤ threshold bias place := by
  unfold threshold; omega

/-- The bias for distances like this one. -/
def biasFor (distance bias : Nat) : Nat :=
  if 455 < distance then biasFor (distance / 35) (bias + 36)
  else bias + 36 * distance / (distance + 38)
termination_by distance

/-- The bias after an insertion that makes the text `length` characters long. -/
def adapt (distance length : Nat) (isFirst : Bool) : Nat :=
  let d := if isFirst then distance / 700 else distance / 2
  biasFor (d + d / length) 0

/-- A distance in digits, the first of them at `place`. -/
def digits (bias place distance : Nat) : List Char :=
  let t := threshold bias place
  if distance < t then [digit distance]
  else digit (t + (distance - t) % (36 - t))
    :: digits bias (place + 36) ((distance - t) / (36 - t))
termination_by distance
decreasing_by
  have := threshold_pos bias place
  exact Nat.lt_of_le_of_lt (Nat.div_le_self _ _) (by omega)

/-- What has been written: the digits in reverse, the distance since the last insertion, the
bias, and how many characters are in place. -/
structure Writing where
  written : List Char
  distance : Nat
  bias : Nat
  length : Nat

/-- Goes past a character of the text while `point` is being inserted; the text had `start`
characters before the first insertion. -/
def Writing.pass (w : Writing) (start point : Nat) (c : Char) : Writing :=
  if c.toNat < point then { w with distance := w.distance + 1 }
  else if c.toNat = point then
    { written := (digits w.bias 36 w.distance).reverse ++ w.written
      distance := 0
      bias := adapt w.distance (w.length + 1) (w.length == start)
      length := w.length + 1 }
  else w

/-- Inserts the characters of the text that are equal to one of the points, in this order; all
points are at least `next`. -/
def insertions (cs : List Char) (start : Nat) : List Nat → Nat → Writing → Writing
  | [], _, w => w
  | point :: points, next, w =>
    let w := { w with distance := w.distance + (point - next) * (w.length + 1) }
    let w := cs.foldl (fun w c => w.pass start point c) w
    insertions cs start points (point + 1) { w with distance := w.distance + 1 }

/-- A text in ASCII. -/
def encode (cs : List Char) : List Char :=
  let plain := cs.filter fun c => c.toNat < 0x80
  let points := ((cs.map Char.toNat).filter fun n => 0x80 ≤ n).mergeSort.eraseReps
  let w := insertions cs plain.length points 0x80 ⟨[], 0, 72, plain.length⟩
  plain ++ (if plain = [] then [] else ['-']) ++ w.written.reverse

/-- Reads a distance whose first digit is at `place` and counts `weight` times, on top of what
is read already. Returns what is left, which is shorter. -/
def distance? (bias place weight read : Nat) : (cs : List Char) →
    Option (Nat × { rest : List Char // rest.length < cs.length })
  | [] => none
  | c :: cs => match digitValue? c with
    | none => none
    | some d =>
      let t := threshold bias place
      if d < t then some (read + d * weight, ⟨cs, Nat.lt_succ_self _⟩)
      else match distance? bias (place + 36) (weight * (36 - t)) (read + d * weight) cs with
        | none => none
        | some (n, ⟨rest, h⟩) => some (n, ⟨rest, Nat.lt_succ_of_lt h⟩)

/-- Makes the insertions that are described by digits. The next one is a character from `point`
on, and the first place for it is `place`. -/
def insertAll (bias point place : Nat) (text cs : List Char) : Option (List Char) :=
  if cs = [] then some text
  else match distance? bias 36 1 0 cs with
    | none => none
    | some (distance, ⟨rest, _⟩) =>
      let length := text.length + 1
      let n := point + (place + distance) / length
      let at' := (place + distance) % length
      if n.isValidChar then
        insertAll (adapt distance length (place == 0)) n (at' + 1)
          (text.insertIdx at' (Char.ofNat n)) rest
      else none
termination_by cs.length

/-- The text that is written in ASCII. A hyphen in front stands after nothing and is no digit. -/
def decode? (cs : List Char) : Option (List Char) :=
  let last := (cs.reverse.takeWhile (· ≠ '-')).reverse
  match cs.take (cs.length - last.length) with
  | [] => insertAll 72 0x80 0 [] last
  | [_] => none
  | plain => insertAll 72 0x80 0 plain.dropLast last

end Courier.Punycode

import Courier.Text.CodePoints
import Courier.Text.Mark
import Courier.Text.Unprintable

/-!
# Writing direction

A name that mixes directions could be read in more than one way. `Direction.agree` is the rule
that keeps a part of a name readable in one direction only. The tables cover the characters
that a name can hold.
-/

namespace Courier

/-- How a character takes part in the direction of its text. -/
inductive Direction where
  | left
  | right
  | europeanDigit
  | arabicDigit
  | mark
  | neutral
deriving DecidableEq

namespace Direction

/-- Letters that are written from right to left. -/
def rightRanges : List (Nat × Nat) := CodePoints.ranges [
  "5be-5f4 608 60b 60d 61b-64a 66d-6d5 6e5-6e6 6ee-6ef 6fa-7f5 7fa-8c9 fbb2-fbd2 fd90-fdce",
  "fe73 10800-1091b 10920-10b35 10b40-10d23 10d4a-10d8f 10e80-10ff6 1e800-1ed3d"]

/-- Digits that are written with either kind of letters. -/
def europeanRanges : List (Nat × Nat) := CodePoints.ranges [
  "30-39 6f0-6f9 102e1-102fb"]

/-- Digits that are written with letters from right to left. -/
def arabicRanges : List (Nat × Nat) := CodePoints.ranges [
  "660-669 66b-66c 10d30-10d49 10e60-10e7e"]

/-- Characters without a direction. -/
def neutralRanges : List (Nat × Nat) := CodePoints.ranges [
  "21-2e 3b-60 7b-d7 f7 2b9-2ba 2c2-2cf 2d2-2ed 2ef-2ff 375 3f6 58a-58f 606-607 609-60a 60c",
  "60e-60f 66a 6de 6e9 7f6-7f9 9f2-9f3 9fb af1 bf3-bfa c78-c7e e3f f3a-f3d 1390-1399 1400",
  "169b-169c 17db 17f0-180a 1940-1945 19de-19ff 200c-214d 218a-2335 237b-2394 2396-26ab",
  "26ad-27ff 2900-2bff 2ce5-2cea 2cf9-2cff 2e00-3004 3008-3020 3030 3037 303d-303f 30a0 30fb",
  "31c0-31e5 4dc0-4dff a490-a4c6 a60d-a60f a673-a67f a700-a721 a788 a828-a82b a838-a839",
  "a874-a877 ab6a-ab6b fd3e-fd4f fdcf-fe46 10101 10140-1018c 10190-101a0 1091f 10b39-10b3f",
  "11052-11065 11660-1166c 11fd5-11ff1 16fe2 1cc00-1cef0 1d1e9-1d245 1d300-1d356 1e2ff",
  "1eef0-1f12f 1f16d-1f16f 1f1ad 1f260-1fbfa"]

/-- Marks that take a place of their own, although they have no glyph alone. -/
def spacingRanges : List (Nat × Nat) := CodePoints.ranges [
  "9be 9d7 b3e b57 bbe bd7 cbf-ccb cd5-cd6 d3e d57 dcf ddf 1715 1734 1b35 1b3b 1b3d 1b43-1b44",
  "1baa 1bf2-1bf3 302e-302f a953 a9c0 111c0 11235 1133e 1134d-11357 113b8 113c2-113c9 113cf",
  "114b0 114bd 115af 116b6 11930 1193d 11a07-11a08 11c3f 11f41 16ff0-16ff1 1d165-1d166",
  "1d16d-1d172"]

/-- Whether a mark lies over or under the character before it. -/
def isOverlay (c : Char) : Bool :=
  Mark.isMark c && Unprintable.isUnprintable c && !CodePoints.within spacingRanges c.toNat

/-- The direction of a character. -/
def of (c : Char) : Direction :=
  let n := c.toNat
  if isOverlay c then .mark
  else if Mark.isMark c then .left
  else if CodePoints.within europeanRanges n then .europeanDigit
  else if CodePoints.within arabicRanges n then .arabicDigit
  else if CodePoints.within neutralRanges n then .neutral
  else if CodePoints.within rightRanges n then .right
  else .left

/-- Whether a character makes its text one that runs from right to left in places. -/
def turns (c : Char) : Bool :=
  if c.toNat < 0x80 then false else of c = .right || of c = .arabicDigit

/-- Whether a text can be read in one direction only. It begins with a letter, which decides
the direction; letters of the other direction and the digits that go with them are out of
place; and apart from marks it ends in a letter or a digit. -/
def agree (cs : List Char) : Bool :=
  let all := cs.map of
  match all, (all.reverse.dropWhile (· = .mark)).head? with
  | .left :: _, some last =>
    all.all (fun d => d ≠ .right && d ≠ .arabicDigit) && (last = .left || last = .europeanDigit)
  | .right :: _, some last =>
    all.all (· ≠ .left) && (last = .right || last = .europeanDigit || last = .arabicDigit)
      && !(all.contains .europeanDigit && all.contains .arabicDigit)
  | _, _ => false

end Direction

end Courier

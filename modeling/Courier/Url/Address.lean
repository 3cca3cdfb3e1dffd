import Courier.Number.Power

/-!
# Numeric addresses

An `Ipv4` address is a number of 32 bits. It is read from up to four parts, each decimal, octal
after a zero or hexadecimal after `0x`; the last part fills all octets that are left. An `Ipv6`
address is eight groups of 16 bits, read from hexadecimal groups, of which a row of zeros may
be left out and the last two may be written like an address of 32 bits.
-/

namespace Courier

/-- The value of a digit in a base of at most 16. -/
def digitIn? (base : Nat) (c : Char) : Option Nat :=
  let d :=
    if c.isDigit then c.toNat - 48
    else if 'a' ≤ c ∧ c ≤ 'f' then c.toNat - 87
    else if 'A' ≤ c ∧ c ≤ 'F' then c.toNat - 55
    else base
  if d < base then some d else none

/-- The number that digits stand for; no digits are zero. -/
def numberIn? (base : Nat) (cs : List Char) : Option Nat :=
  (cs.mapM (digitIn? base)).map fun ds => ds.foldl (fun n d => n * base + d) 0

namespace Ipv4

/-- The number that a part stands for. -/
def part? : List Char → Option Nat
  | [] => none
  | '0' :: 'x' :: cs | '0' :: 'X' :: cs => numberIn? 16 cs
  | '0' :: c :: cs => numberIn? 8 (c :: cs)
  | cs => numberIn? 10 cs

/-- The parts of a name with dots between them; one dot at the end does not count. -/
def parts (cs : List Char) : List (List Char) :=
  match (cs.splitOn '.').reverse with
  | [] :: part :: rest => (part :: rest).reverse
  | parts => parts.reverse

/-- Whether a name has to be a numeric address, because its last part looks like a number. -/
def isNumeric (cs : List Char) : Bool :=
  (parts cs).getLast?.any fun last =>
    last ≠ [] && (last.all Char.isDigit || (part? last).isSome)

/-- The address that a name stands for. -/
def parse? (cs : List Char) : Option Nat :=
  match (parts cs).mapM part? with
  | none => none
  | some numbers => match numbers.reverse with
    | [] => none
    | last :: firsts =>
      if firsts.length ≤ 3 ∧ firsts.all (· < 256) ∧ last < 256 ^ (4 - firsts.length) then
        some (numbers.dropLast.foldl (fun n d => n * 256 + d) 0 * 256 ^ (4 - firsts.length) + last)
      else none

/-- An address as four decimal numbers. -/
def render (address : Nat) : String :=
  ".".intercalate ([3, 2, 1, 0].map fun i => toString (address / 256 ^ i % 256))

end Ipv4

namespace Ipv6

/-- The group that up to four hexadecimal digits stand for. -/
def group? (cs : List Char) : Option Nat :=
  if cs = [] ∨ 4 < cs.length then none else numberIn? 16 cs

/-- The octet that decimal digits stand for, without zeros in front. -/
def octet? (cs : List Char) : Option Nat :=
  if cs = [] ∨ (cs.head? = some '0' ∧ cs ≠ ['0']) then none
  else (numberIn? 10 cs).filter (· < 256)

/-- The two groups of four octets with dots between them. -/
def dotted? (cs : List Char) : Option (List Nat) :=
  match (cs.splitOn '.').mapM octet? with
  | some [a, b, c, d] => some [a * 256 + b, c * 256 + d]
  | _ => none

/-- The groups of a text with colons between them; only the last two of an address can be
written with dots. -/
def groups? (isLast : Bool) (cs : List Char) : Option (List Nat) :=
  if cs = [] then some []
  else
    let words := cs.splitOn ':'
    let last := words.getLast?.getD []
    if isLast ∧ last.contains '.' then do
      return (← words.dropLast.mapM group?) ++ (← dotted? last)
    else words.mapM group?

/-- The text before the first two colons in a row, and the text after them. -/
def splitGap : List Char → List Char × Option (List Char)
  | ':' :: ':' :: cs => ([], some cs)
  | c :: cs => ((c :: (splitGap cs).1), (splitGap cs).2)
  | [] => ([], none)

/-- The groups of an address. Two colons stand for one or more zeros. -/
def parse? (cs : List Char) : Option (List Nat) :=
  match splitGap cs with
  | (all, none) => (groups? true all).filter (·.length = 8)
  | (before, some after) => do
    let before ← groups? false before
    let after ← groups? true after
    if before.length + after.length ≤ 7 then
      return before ++ List.replicate (8 - before.length - after.length) 0 ++ after
    else none

/-- Groups with colons between them. -/
def renderGroups (groups : List Nat) : String :=
  ":".intercalate (groups.map fun n => String.ofList (Nat.toDigits 16 n))

/-- An address with its longest row of zeros left out, the first of them if there are more; a
single zero is written. -/
def render (groups : List Nat) : String :=
  let zeros := (List.range groups.length).map fun i =>
    ((groups.drop i).takeWhile (· = 0)).length
  let longest := zeros.foldl max 0
  if longest < 2 then renderGroups groups
  else
    let start := zeros.idxOf longest
    renderGroups (groups.take start) ++ "::" ++ renderGroups (groups.drop (start + longest))

end Ipv6

end Courier

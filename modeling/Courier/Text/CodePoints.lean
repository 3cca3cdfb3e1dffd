/-!
# Tables of code points

A property of characters is a table of ranges. Tables are written as rows of words with blanks
between them; a word is a hexadecimal number, or a range such as `61-7a`.

* `ranges` reads the rows of a table.
* `within` looks a code point up.
-/

namespace Courier.CodePoints

/-- The number that hexadecimal digits in lower case stand for. -/
def number (digits : List Char) : Nat :=
  digits.foldl (fun n c => n * 16 + if c.isDigit then c.toNat - 48 else c.toNat - 87) 0

/-- The words of a row. -/
def words (row : String) : List (List Char) :=
  row.toList.splitOn ' '

/-- The range that a word stands for. -/
def range (word : List Char) : Nat × Nat :=
  match word.splitOn '-' with
  | [low, high] => (number low, number high)
  | _ => (number word, number word)

/-- The ranges of a table. -/
def ranges (rows : List String) : List (Nat × Nat) :=
  rows.flatMap fun row => (words row).map range

/-- Whether a code point lies in one of the ranges. -/
def within (table : List (Nat × Nat)) (n : Nat) : Bool :=
  table.any fun (low, high) => low ≤ n && n ≤ high

end Courier.CodePoints

import Courier.Json.Number

/-!
# Reading JSON text

The grammar is the strict one: no comments, no trailing commas, no leading zeros, no raw
controls in texts, and every surrogate escape in a pair. Arrays and objects nest at most
`maxLevels` deep.

* `Json.parse?` reads a whole text as one document.
-/

namespace Courier.Json

/-- How many arrays and objects may be nested. -/
def maxLevels : Nat := 127

/-- The blanks of the grammar. -/
def isSpace (c : Char) : Bool :=
  c == ' ' || c == '\t' || c == '\n' || c == '\r'

/-- Drops the blanks at the front. -/
def skip (cs : List Char) : List Char :=
  cs.dropWhile isSpace

/-- The value of a decimal digit. -/
def digit? (c : Char) : Option Nat :=
  if '0' ≤ c ∧ c ≤ '9' then some (c.toNat - '0'.toNat) else none

/-- The value of a hexadecimal digit. -/
def hexDigit? (c : Char) : Option Nat :=
  if '0' ≤ c ∧ c ≤ '9' then some (c.toNat - '0'.toNat)
  else if 'a' ≤ c ∧ c ≤ 'f' then some (c.toNat - 'a'.toNat + 10)
  else if 'A' ≤ c ∧ c ≤ 'F' then some (c.toNat - 'A'.toNat + 10)
  else none

/-- The number of four hexadecimal digits. -/
def hexQuad? (a b c d : Char) : Option Nat :=
  match hexDigit? a, hexDigit? b, hexDigit? c, hexDigit? d with
  | some a, some b, some c, some d => some (((a * 16 + b) * 16 + c) * 16 + d)
  | _, _, _, _ => none

/-- The character that a short escape stands for. -/
def shortEscape? (c : Char) : Option Char :=
  if c = '"' then some '"'
  else if c = '\\' then some '\\'
  else if c = '/' then some '/'
  else if c = 'b' then some '\x08'
  else if c = 'f' then some '\x0c'
  else if c = 'n' then some '\n'
  else if c = 'r' then some '\r'
  else if c = 't' then some '\t'
  else none

/-- The digits at the front, collected in reverse on top of `done`, and what follows them. -/
def takeDigits (done : List Nat) : List Char → List Nat × List Char
  | [] => (done.reverse, [])
  | c :: cs => match digit? c with
    | some d => takeDigits (d :: done) cs
    | none => (done.reverse, c :: cs)

/-- The rest of a text after its opening quote, on top of the characters in `done`. -/
def readText (done : List Char) : List Char → Option (String × List Char)
  | [] => none
  | '"' :: rest => some (String.ofList done.reverse, rest)
  | '\\' :: 'u' :: a :: b :: c :: d :: rest =>
    match hexQuad? a b c d with
    | none => none
    | some n =>
      if 0xDC00 ≤ n ∧ n < 0xE000 then none
      else if 0xD800 ≤ n ∧ n < 0xDC00 then
        match rest with
        | '\\' :: 'u' :: a :: b :: c :: d :: rest =>
          match hexQuad? a b c d with
          | none => none
          | some m =>
            if 0xDC00 ≤ m ∧ m < 0xE000 then
              readText (Char.ofNat (0x10000 + (n - 0xD800) * 0x400 + (m - 0xDC00)) :: done) rest
            else none
        | _ => none
      else readText (Char.ofNat n :: done) rest
  | '\\' :: c :: rest =>
    match shortEscape? c with
    | some c => readText (c :: done) rest
    | none => none
  | c :: rest => if c.toNat < 0x20 then none else readText (c :: done) rest

/-- The fraction of a number, if a point follows. -/
def readFraction (cs : List Char) : Option (Option (List Nat) × List Char) :=
  match cs with
  | '.' :: cs => match takeDigits [] cs with
    | ([], _) => none
    | (ds, rest) => some (some ds, rest)
  | _ => some (none, cs)

/-- The number with the given digits. -/
def natOfDigits (ds : List Nat) : Nat :=
  ds.foldl (fun n d => n * 10 + d) 0

/-- The exponent of a number, if its letter follows. -/
def readExponent (cs : List Char) : Option (Option Int × List Char) :=
  match cs with
  | c :: rest =>
    if c = 'e' ∨ c = 'E' then
      let (negative, rest) := match rest with
        | '-' :: rest => (true, rest)
        | '+' :: rest => (false, rest)
        | _ => (false, rest)
      match takeDigits [] rest with
      | ([], _) => none
      | (ds, rest) =>
        let n : Int := natOfDigits ds
        some (some (if negative then -n else n), rest)
    else some (none, cs)
  | [] => some (none, cs)

/-- A number without its sign. A leading zero stands alone. -/
def readNumber (negative : Bool) (cs : List Char) : Option (Json × List Char) :=
  match takeDigits [] cs with
  | ([], _) => none
  | (0 :: _ :: _, _) => none
  | (whole, rest) =>
    (readFraction rest).bind fun (fraction, rest) =>
      (readExponent rest).bind fun (exponent, rest) =>
        (Number.toJson? ⟨negative, whole, fraction, exponent⟩).map (·, rest)

/-- The items of an array after its bracket and blanks; each takes at least one character. -/
def readItems (item : List Char → Option (Json × List Char)) (done : List Json) :
    Nat → List Char → Option (List Json × List Char)
  | 0, _ => none
  | fuel + 1, cs =>
    (item cs).bind fun (j, rest) =>
      match skip rest with
      | ',' :: rest => readItems item (j :: done) fuel rest
      | ']' :: rest => some ((j :: done).reverse, rest)
      | _ => none

/-- The entries of an object after its brace and blanks. -/
def readEntries (item : List Char → Option (Json × List Char)) (done : List (String × Json)) :
    Nat → List Char → Option (List (String × Json) × List Char)
  | 0, _ => none
  | fuel + 1, cs =>
    match skip cs with
    | '"' :: rest =>
      (readText [] rest).bind fun (key, rest) =>
        match skip rest with
        | ':' :: rest =>
          (item rest).bind fun (j, rest) =>
            match skip rest with
            | ',' :: rest => readEntries item ((key, j) :: done) fuel rest
            | '\x7d' :: rest => some (((key, j) :: done).reverse, rest)
            | _ => none
        | _ => none
    | _ => none

/-- One document from the front of a text of `size` characters, with the reader of what is
nested in it; where nothing may be nested, there is none. -/
def readWith (size : Nat) (item : Option (List Char → Option (Json × List Char)))
    (cs : List Char) : Option (Json × List Char) :=
  match skip cs with
  | 'n' :: 'u' :: 'l' :: 'l' :: rest => some (.null, rest)
  | 't' :: 'r' :: 'u' :: 'e' :: rest => some (.bool true, rest)
  | 'f' :: 'a' :: 'l' :: 's' :: 'e' :: rest => some (.bool false, rest)
  | '"' :: rest => (readText [] rest).map fun (s, rest) => (.text s, rest)
  | '[' :: rest => item.bind fun item =>
    match skip rest with
    | ']' :: rest => some (.array [], rest)
    | _ => (readItems item [] (size + 1) rest).map fun (items, rest) => (.array items, rest)
  | '\x7b' :: rest => item.bind fun item =>
    match skip rest with
    | '\x7d' :: rest => some (.object [], rest)
    | _ => (readEntries item [] (size + 1) rest).map fun (es, rest) => (ofEntries es, rest)
  | '-' :: rest => readNumber true rest
  | rest => readNumber false rest

/-- One document from the front of a text of `size` characters, so many levels deep. -/
def read (size : Nat) : Nat → List Char → Option (Json × List Char)
  | 0 => readWith size none
  | levels + 1 => readWith size (some (read size levels))

/-- The document that a whole text stands for. -/
def parse? (s : String) : Option Json :=
  let cs := s.toList
  match read cs.length maxLevels cs with
  | some (j, rest) => if skip rest = [] then some j else none
  | none => none

end Courier.Json

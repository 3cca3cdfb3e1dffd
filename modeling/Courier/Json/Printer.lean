import Courier.Json.Value
import Courier.Number.Shortest

/-!
# Writing JSON text

Documents are written without blanks. Floats always show that they are floats, by a point
or an exponent.
-/

namespace Courier

/-- Decimal digits with a point or an exponent: positional from `10 ^ -5` to below `10 ^ 16`,
and as one digit before the point with an exponent elsewhere. -/
def Decimal.scientific (d : Decimal) : String :=
  let digits := toString d.digits
  let point := digits.length + d.exponent
  let zeros (n : Int) := "".pushn '0' n.toNat
  if 0 ≤ d.exponent ∧ point ≤ 16 then digits ++ zeros d.exponent ++ ".0"
  else if 0 < point ∧ point ≤ 16 then
    (digits.take point.toNat).toString ++ "." ++ (digits.drop point.toNat).toString
  else if -5 < point ∧ point ≤ 0 then "0." ++ zeros (-point) ++ digits
  else
    let fraction := (digits.drop 1).toString
    (digits.take 1).toString ++ (if fraction = "" then "" else "." ++ fraction)
      ++ (if 0 < point then "e+" else "e-") ++ toString (point - 1).natAbs

namespace Json

/-- A float as JSON writes it; there is no text for a NaN or an infinity. A tie goes to the
even digit. -/
def renderFloat (bits : Nat) : String :=
  match Binary.double.classify bits with
  | .finite negative significand exponent =>
    (if negative then "-" else "")
      ++ if significand = 0 then "0.0"
        else (Decimal.shortest .double .toEven significand exponent).scientific
  | _ => "null"

/-- A character as it stands in a JSON text. -/
def escapeChar (c : Char) : String :=
  if c = '"' then "\\\""
  else if c = '\\' then "\\\\"
  else if c = '\x08' then "\\b"
  else if c = '\x0c' then "\\f"
  else if c = '\n' then "\\n"
  else if c = '\r' then "\\r"
  else if c = '\t' then "\\t"
  else if c.toNat < 0x10 then "\\u000" ++ String.ofList (Nat.toDigits 16 c.toNat)
  else if c.toNat < 0x20 then "\\u00" ++ String.ofList (Nat.toDigits 16 c.toNat)
  else c.toString

/-- A text in quotes. -/
def renderText (s : String) : String :=
  s.foldl (fun out c => out ++ escapeChar c) "\"" ++ "\""

mutual

/-- The text of a document. -/
def render : Json → String
  | .null => "null"
  | .bool b => if b then "true" else "false"
  | .int i => toString i.val
  | .float bits => renderFloat bits.toNat
  | .text s => renderText s
  | .array items => renderItems "[" "" items
  | .object entries => renderEntries "\x7b" "" entries

/-- The items after the text `done`, the first of them after `separator`. -/
def renderItems (done separator : String) : List Json → String
  | [] => done ++ "]"
  | j :: js => renderItems (done ++ separator ++ j.render) "," js

/-- The entries after the text `done`, the first of them after `separator`. -/
def renderEntries (done separator : String) : List (String × Json) → String
  | [] => done ++ "\x7d"
  | (key, j) :: es =>
    renderEntries (done ++ separator ++ renderText key ++ ":" ++ j.render) "," es

end

end Json

end Courier

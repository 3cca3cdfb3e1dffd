import Courier.Text.Unprintable

/-!
# Quoted text

Texts inside messages stand in double quotes. The quote and the backslash are escaped,
tab, newline, return and NUL have short escapes, and every other character without a
glyph is written as its code point in braces.
-/

namespace Courier

/-- The hexadecimal digits of a number, without leading zeros. -/
def hexDigits (n : Nat) : String :=
  String.ofList (Nat.toDigits 16 n)

/-- A character as it stands between the quotes. -/
def quoteChar (c : Char) : String :=
  if c = '"' then "\\\""
  else if c = '\\' then "\\\\"
  else if c = '\t' then "\\t"
  else if c = '\n' then "\\n"
  else if c = '\r' then "\\r"
  else if c = '\x00' then "\\0"
  else if Unprintable.isUnprintable c then "\\u\x7b" ++ hexDigits c.toNat ++ "\x7d"
  else c.toString

/-- A text in double quotes, with its special characters escaped. -/
def quote (s : String) : String :=
  s.foldl (fun out c => out ++ quoteChar c) "\"" ++ "\""

/-- An optional value, as `None` or `Some(x)`. -/
def quoteOption {α : Type} (render : α → String) : Option α → String
  | none => "None"
  | some a => "Some(" ++ render a ++ ")"

end Courier

import Courier.Msgpack.Value
import Courier.Number.Shortest
import Courier.Text.Quoted

/-!
# Values in messages

Error messages show the value they complain about: texts quoted, octets as decimal
numbers, arrays in brackets, maps in braces, and floats as plain decimals.
-/

namespace Courier

/-- Octets as decimal numbers in brackets. -/
def renderOctets (b : Octets) : String :=
  "[" ++ ", ".intercalate (b.map fun octet => toString octet.toNat) ++ "]"

namespace Value

mutual

/-- A value as it stands in a message. -/
def render : Value → String
  | .nil => "nil"
  | .bool b => if b then "true" else "false"
  | .int i => toString i.val
  | .float32 bits => Binary.single.plain bits.toNat
  | .float64 bits => Binary.double.plain bits.toNat
  | .text b => match Utf8.decode? b with
    | some s => quote s
    | none => renderOctets b
  | .binary b => renderOctets b
  | .extension type b => "[" ++ toString type.toInt ++ ", " ++ renderOctets b ++ "]"
  | .array items => renderItems "[" "" items
  | .map entries => renderEntries "\x7b" "" entries

/-- The items after the text `done`, the first of them after `separator`. -/
def renderItems (done separator : String) : List Value → String
  | [] => done ++ "]"
  | v :: vs => renderItems (done ++ separator ++ v.render) ", " vs

/-- The entries after the text `done`, the first of them after `separator`. -/
def renderEntries (done separator : String) : List (Value × Value) → String
  | [] => done ++ "\x7d"
  | (k, v) :: es => renderEntries (done ++ separator ++ k.render ++ ": " ++ v.render) ", " es

end

end Value

end Courier

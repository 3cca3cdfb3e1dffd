import Courier.Number.WireInt
import Courier.Msgpack.Value

/-!
# JSON documents

A document keeps integers and floats apart. An object holds each key once, in the order of
the keys; `Json.ofEntries` makes one from entries in any order, the last of one key winning.

* `Json.field?` looks up a key of an object.
* `Json.ofValue?` reads a value of the binary format as a document, where it has that shape.
* `Json.toValue` is the value that stands for a document.
-/

namespace Courier

/-- A JSON document; a float is its bit pattern. -/
inductive Json where
  | null
  | bool (b : Bool)
  | int (i : WireInt)
  | float (bits : UInt64)
  | text (s : String)
  | array (items : List Json)
  | object (entries : List (String × Json))
deriving Inhabited

namespace Json

/-- Of neighbouring entries with one key, keeps the last; collects in reverse in `done`. -/
def keepLast {α : Type} (done : List (String × α)) :
    List (String × α) → List (String × α)
  | [] => done.reverse
  | [e] => (e :: done).reverse
  | e :: next :: rest =>
    if e.1 = next.1 then keepLast done (next :: rest) else keepLast (e :: done) (next :: rest)

/-- The entries in the order of their keys, the last of one key winning. -/
def sortEntries {α : Type} (entries : List (String × α)) : List (String × α) :=
  keepLast [] (entries.mergeSort fun a b => !decide (b.1 < a.1))

/-- The object with the given entries. -/
def ofEntries (entries : List (String × Json)) : Json :=
  .object (sortEntries entries)

/-- The document under a key of an object. -/
def field? (key : String) : Json → Option Json
  | .object entries => entries.lookup key
  | _ => none

/-- The text of a document that is one. -/
def text? : Json → Option String
  | .text s => some s
  | _ => none

/-- The number of a document that is a natural. -/
def nat? : Json → Option Nat
  | .int i => i.toNat?
  | _ => none

/-- A float as a document; there is none for a NaN or an infinity. -/
def ofFloat (bits : UInt64) : Json :=
  if Binary.double.isFinite bits.toNat then .float bits else .null

/-- The text of a map key. After the first entry a key may also be binary. -/
def key? (first : Bool) : Value → Option String
  | .text b => Utf8.decode? b
  | .binary b => if first then none else Utf8.decode? b
  | _ => none

mutual

/-- The document that a value stands for: no binaries or extensions in it, and texts as keys. -/
def ofValue? : Value → Option Json
  | .nil => some .null
  | .bool b => some (.bool b)
  | .int i => some (.int i)
  | .float32 bits => some (ofFloat (widen bits))
  | .float64 bits => some (ofFloat bits)
  | .text b => (Utf8.decode? b).map .text
  | .binary _ => none
  | .extension _ _ => none
  | .array items => (ofItems? [] items).map .array
  | .map entries => (ofEntries? [] entries).map ofEntries

/-- The documents of the items, after those collected in reverse in `done`. -/
def ofItems? (done : List Json) : List Value → Option (List Json)
  | [] => some done.reverse
  | v :: vs => match ofValue? v with
    | some j => ofItems? (j :: done) vs
    | none => none

/-- The entries of a map, after those collected in reverse in `done`. -/
def ofEntries? (done : List (String × Json)) : List (Value × Value) → Option (List (String × Json))
  | [] => some done.reverse
  | (k, v) :: es => match key? done.isEmpty k, ofValue? v with
    | some key, some j => ofEntries? ((key, j) :: done) es
    | _, _ => none

end

mutual

/-- The value that stands for a document. -/
def toValue : Json → Value
  | .null => .nil
  | .bool b => .bool b
  | .int i => .int i
  | .float bits => .float64 bits
  | .text s => .ofString s
  | .array items => .array (toItems [] items)
  | .object entries => .map (toEntries [] entries)

/-- The values of the items, after those collected in reverse in `done`. -/
def toItems (done : List Value) : List Json → List Value
  | [] => done.reverse
  | j :: js => toItems (toValue j :: done) js

/-- The entries of an object, after those collected in reverse in `done`. -/
def toEntries (done : List (Value × Value)) : List (String × Json) → List (Value × Value)
  | [] => done.reverse
  | (key, j) :: es => toEntries ((.ofString key, toValue j) :: done) es

end

end Json

end Courier

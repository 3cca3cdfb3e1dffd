import Courier.Header.Basic
import Courier.Msgpack.Encode
import Courier.Msgpack.Decode

/-!
# Headers on the wire

A record is written as a map from the names of its fields to their values, without the
absent ones. It is also read when its entries stand in another order, when there are
further entries, when fields are named by position, and from the positional forms: an array
of the fields, or a binary of the two fields that fit an octet.

* `Record.toValue` is the map of a record.
* `Record.read?` takes a record from the front of a frame.
-/

namespace Courier.Record

open Msgpack (Head Size)

/-- The fields of a record. -/
inductive Field where
  | version
  | kind
  | reqSeq
  | uri
  | method
deriving DecidableEq

namespace Field

/-- The name of a field. -/
def name : Field → String
  | .version => "version"
  | .kind => "kind"
  | .reqSeq => "reqSeq"
  | .uri => "uri"
  | .method => "method"

/-- The fields in their order. -/
def all : List Field := [.version, .kind, .reqSeq, .uri, .method]

/-- The field whose name has the given octets. -/
def ofName? (octets : Octets) : Option Field :=
  all.find? fun field => Utf8.encode field.name == octets

end Field

/-- The value of a field, if the record has it. -/
def value? (r : Record) : Field → Option Value
  | .version => some (.ofUInt64 r.version.toUInt64)
  | .kind => some (.ofUInt64 r.kind.toUInt64)
  | .reqSeq => r.reqSeq.map .ofUInt64
  | .uri => r.uri.map .ofString
  | .method => r.method.map .ofString

/-- The map of a record: its fields in order, without the absent ones. -/
def toValue (r : Record) : Value :=
  .map (Field.all.filterMap fun field =>
    (r.value? field).map fun value => (.ofString field.name, value))

/-- A record whose fields are still being read. An optional field that was read as absent is
known, and so may not come again. -/
structure Draft where
  version : Option UInt32
  kind : Option UInt8
  reqSeq : Option (Option ReqSeq)
  uri : Option (Option String)
  method : Option (Option String)

namespace Draft

/-- Nothing is known yet. -/
def empty : Draft := ⟨none, none, none, none, none⟩

/-- Whether a field is known. -/
def knows (d : Draft) : Field → Bool
  | .version => d.version.isSome
  | .kind => d.kind.isSome
  | .reqSeq => d.reqSeq.isSome
  | .uri => d.uri.isSome
  | .method => d.method.isSome

/-- The record, once version and kind are known. -/
def finish? (d : Draft) : Option Record :=
  match d.version, d.kind with
  | some version, some kind =>
    some ⟨version, kind, d.reqSeq.getD none, d.uri.getD none, d.method.getD none⟩
  | _, _ => none

end Draft

/-- The head at the front and what follows it. -/
def head? : Octets → Option (Head × Octets)
  | [] => none
  | octet :: rest => (Head.ofOctet? octet).map (·, rest)

/-- A natural below `2 ^ bits`, in any integer form. -/
def readNat (bits : Nat) (b : Octets) : Option (Nat × Octets) :=
  (head? b).bind fun (head, rest) => (head.int? rest).bind fun (i, rest) =>
    i.toNat?.bind fun n => if n < 2 ^ bits then some (n, rest) else none

/-- A text, also in the form of a binary. -/
def readText (b : Octets) : Option (String × Octets) :=
  (head? b).bind fun (head, rest) => match head with
    | .text size | .binary size =>
      (size.octets? rest).bind fun (octets, rest) => (Utf8.decode? octets).map (·, rest)
    | _ => none

/-- An optional thing, where nil stands for its absence. -/
def readOptional {α : Type} (item : Octets → Option (α × Octets)) (b : Octets) :
    Option (Option α × Octets) :=
  match b with
  | 0xC0 :: rest => some (none, rest)
  | _ => (item b).map fun (a, rest) => (some a, rest)

/-- The value of a field that is not known yet. -/
def readField (d : Draft) (field : Field) (b : Octets) : Option (Draft × Octets) :=
  if d.knows field then none else
    match field with
    | .version => (readNat 32 b).map fun (n, rest) =>
        ({ d with version := some (UInt32.ofNat n) }, rest)
    | .kind => (readNat 8 b).map fun (n, rest) => ({ d with kind := some (UInt8.ofNat n) }, rest)
    | .reqSeq => (readOptional (readNat 64) b).map fun (n, rest) =>
        ({ d with reqSeq := some (n.map UInt64.ofNat) }, rest)
    | .uri => (readOptional readText b).map fun (s, rest) => ({ d with uri := some s }, rest)
    | .method => (readOptional readText b).map fun (s, rest) => ({ d with method := some s }, rest)

/-- The key of an entry: the field it names, or nothing for a name or number that no field
has. Names are texts or binaries, numbers are unsigned. -/
def readKey (b : Octets) : Option (Option Field × Octets) :=
  (head? b).bind fun (head, rest) => match head with
    | .text size | .binary size =>
      (size.octets? rest).map fun (octets, rest) => (Field.ofName? octets, rest)
    | .immediate i => if 0 ≤ i then some (Field.all[i.toNat]?, rest) else none
    | .unsigned width => (Octets.nat? width rest).map fun (n, rest) => (Field.all[n]?, rest)
    | _ => none

/-- One entry of the map. The value under an unknown key is skipped; it is nested in the map,
so that one level less is left for it. -/
def readEntry (d : Draft) (b : Octets) : Option (Draft × Octets) :=
  (readKey b).bind fun (field, rest) => match field with
    | some field => readField d field rest
    | none => (Msgpack.read (Msgpack.maxLevels - 1) rest).map fun (_, rest) => (d, rest)

/-- So many entries of the map. -/
def readEntries (d : Draft) : Nat → Octets → Option (Draft × Octets)
  | 0, b => some (d, b)
  | n + 1, b =>
    match readEntry d b with
    | some (d, rest) => readEntries d n rest
    | none => none

/-- The given fields one after the other. -/
def readFields (d : Draft) : List Field → Octets → Option (Draft × Octets)
  | [], b => some (d, b)
  | field :: fields, b => (readField d field b).bind fun (d, rest) => readFields d fields rest

/-- A record from the front of a frame and what follows it. -/
def read? (b : Octets) : Option (Record × Octets) :=
  (head? b).bind fun (head, rest) => match head with
    | .map size => (size.read? rest).bind fun (n, rest) =>
        (readEntries .empty n rest).bind fun (d, rest) => d.finish?.map (·, rest)
    | .array size => (size.read? rest).bind fun (n, rest) =>
        if 2 ≤ n ∧ n ≤ 5 then
          (readFields .empty (Field.all.take n) rest).bind fun (d, rest) => d.finish?.map (·, rest)
        else none
    | .binary size => (size.octets? rest).bind fun (octets, rest) => match octets with
        | [version, kind] => some (⟨version.toUInt32, kind, none, none, none⟩, rest)
        | _ => none
    | _ => none

end Courier.Record

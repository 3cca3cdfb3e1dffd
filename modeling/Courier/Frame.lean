import Courier.Header.Wire

/-!
# Frames

A frame is a header, a content and any number of attachments, each a value of its own, one
right after the other.

* `Frame.encode` writes a frame, `Frame.decode` reads a whole one.
* `Inbound.decode` reads header and content only: a frame whose content is unreadable still
  has a header, and whatever follows the content is counted and left alone.
-/

namespace Courier

/-- A file that travels with a request. -/
structure Attachment where
  filename : String
  blob : Octets
deriving DecidableEq

/-- A header, a content and attachments. -/
structure Frame where
  header : Record
  content : Value
  attachments : List Attachment

/-- What keeps octets from being a frame. -/
inductive FrameFault where
  /-- A segment is not a value, or the first is not a header. -/
  | unreadable
  | attachmentNotMap
  | attachmentIncomplete
deriving DecidableEq

namespace Attachment

/-- The map of an attachment. -/
def toValue (a : Attachment) : Value :=
  .map [(.ofString "filename", .ofString a.filename), (.ofString "blob", .binary a.blob)]

/-- The text under `filename` and the binary under `blob`, the last of each. -/
def parts (filename : Option String) (blob : Option Octets) :
    List (Value × Value) → Option String × Option Octets
  | [] => (filename, blob)
  | (key, value) :: entries =>
    match key.string?, value with
    | some "filename", .text octets => parts (Utf8.decode? octets) blob entries
    | some "blob", .binary octets => parts filename (some octets) entries
    | _, _ => parts filename blob entries

/-- The attachment that a value stands for. -/
def ofValue : Value → Except FrameFault Attachment
  | .map entries => match parts none none entries with
    | (some filename, some blob) => .ok ⟨filename, blob⟩
    | _ => .error .attachmentIncomplete
  | _ => .error .attachmentNotMap

end Attachment

namespace Frame

/-- The octets of a frame. -/
def encode (f : Frame) : Octets :=
  Msgpack.encode f.header.toValue
    ++ (Msgpack.encode f.content ++ f.attachments.flatMap fun a => Msgpack.encode a.toValue)

/-- The attachments up to the end, collected in reverse on top of `done`. Each takes at
least one octet. -/
def readAttachments (done : List Attachment) : Nat → Octets → Except FrameFault (List Attachment)
  | _, [] => .ok done.reverse
  | 0, _ :: _ => .error .unreadable
  | fuel + 1, b =>
    match Msgpack.read Msgpack.maxLevels b with
    | none => .error .unreadable
    | some (value, rest) => match Attachment.ofValue value with
      | .ok a => readAttachments (a :: done) fuel rest
      | .error fault => .error fault

/-- Reads a whole frame. -/
def decode (b : Octets) : Except FrameFault Frame :=
  match Record.read? b with
  | none => .error .unreadable
  | some (header, rest) => match Msgpack.read Msgpack.maxLevels rest with
    | none => .error .unreadable
    | some (content, rest) => match readAttachments [] rest.length rest with
      | .ok attachments => .ok ⟨header, content, attachments⟩
      | .error fault => .error fault

/-- Whether two frames are equal, their contents as numbers compare. -/
def same (f g : Frame) : Bool :=
  f.header == g.header && f.content.same g.content && f.attachments == g.attachments

end Frame

/-- What is read of a frame from the server: its content may be unreadable, and so many
octets are left after it. -/
structure Inbound where
  header : Record
  content : Option Value
  trailing : Nat

/-- Reads header and content of a frame; nothing if the header is unreadable. -/
def Inbound.decode? (b : Octets) : Option Inbound :=
  (Record.read? b).map fun (header, rest) =>
    match Msgpack.read Msgpack.maxLevels rest with
    | some (content, rest) => ⟨header, some content, rest.length⟩
    | none => ⟨header, none, 0⟩

end Courier

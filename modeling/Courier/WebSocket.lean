import Courier.Error

/-!
# WebSocket connections

A handshake presents the cookies as a header. After it the server's octets are frames: a
message is one frame or several fragments, and control frames may stand between fragments.
A client of this library looks at binary messages and at the end of the connection only.

* `Message.event?` says which messages the client notices; only close code 1000 is clean.
* `events` reads a stream of octets to its end. Whatever breaks the framing, and an end
  without a close, is an unclean end.
-/

namespace Courier.WebSocket

/-- A message of the server. -/
inductive Message where
  | binary (payload : Octets)
  | text (payload : Octets)
  | ping (payload : Octets)
  | pong (payload : Octets)
  | close (code : Option Nat)

/-- What a client notices of a connection. -/
inductive SocketEvent where
  | frame (payload : Octets)
  | closed (clean : Bool)
deriving DecidableEq

/-- The close code of an end that lost nothing. -/
def normalClosure : Nat := 1000

/-- What a client notices of a message. -/
def Message.event? : Message → Option SocketEvent
  | .binary payload => some (.frame payload)
  | .close code => some (.closed (code == some normalClosure))
  | .text _ | .ping _ | .pong _ => none

/-- What an opcode stands for. -/
inductive Opcode where
  | continuation
  | text
  | binary
  | close
  | ping
  | pong
deriving DecidableEq

namespace Opcode

/-- The number of an opcode. -/
def code : Opcode → UInt8
  | .continuation => 0
  | .text => 1
  | .binary => 2
  | .close => 8
  | .ping => 9
  | .pong => 10

/-- The opcode with a given number; the others are reserved. -/
def ofCode? (n : UInt8) : Option Opcode :=
  [continuation, text, binary, close, ping, pong].find? fun op => op.code == n

/-- Whether frames of an opcode may stand between fragments. -/
def isControl : Opcode → Bool
  | .close | .ping | .pong => true
  | _ => false

end Opcode

/-- A frame on the wire. -/
structure WireFrame where
  final : Bool
  opcode : Opcode
  payload : Octets

/-- The octets of a frame of the server. -/
def WireFrame.encode (f : WireFrame) : Octets :=
  let n := f.payload.length
  let size := if n < 126 then [UInt8.ofNat n]
    else if n < 2 ^ 16 then 126 :: Octets.bigEndian 2 n
    else 127 :: Octets.bigEndian 8 n
  (f.opcode.code + if f.final then 0x80 else 0) :: size ++ f.payload

/-- The frame at the front of a stream. A frame of a server is not masked and has no reserved
bits; a control frame is short and whole. -/
def WireFrame.decode? : Octets → Option (WireFrame × Octets)
  | first :: second :: rest =>
    let final := 0x80 ≤ first
    (Opcode.ofCode? (first % 0x80)).bind fun opcode =>
      if 0x80 ≤ second ∨ (opcode.isControl ∧ (125 < second ∨ first < 0x80)) then none else
        let size := if second = 126 then Octets.nat? 2 rest
          else if second = 127 then Octets.nat? 8 rest
          else some (second.toNat, rest)
        size.bind fun (n, rest) => (Octets.split? n rest).map fun (payload, rest) =>
          (⟨final, opcode, payload⟩, rest)
  | _ => none

/-- The close code in a payload; nothing if the payload is malformed. -/
def closeCode? : Octets → Option (Option Nat)
  | [] => some none
  | high :: low :: reason =>
    if Utf8.isText reason then some (some (high.toNat * 256 + low.toNat)) else none
  | _ => none

/-- A data message from its first opcode and its whole payload. -/
def dataMessage? (isText : Bool) (payload : Octets) : Option Message :=
  if !isText then some (.binary payload)
  else if Utf8.isText payload then some (.text payload) else none

/-- The events of a stream, given the fragments of an unfinished message. Each frame takes at
least two octets. -/
def eventsFrom (partly : Option (Bool × Octets)) : Nat → Octets → List SocketEvent
  | 0, _ => [.closed false]
  | fuel + 1, b =>
    match WireFrame.decode? b with
    | none => [.closed false]
    | some (f, rest) => match f.opcode, partly with
      | .close, _ => match closeCode? f.payload with
        | some code => (Message.close code).event?.toList
        | none => [.closed false]
      | .ping, _ | .pong, _ => eventsFrom partly fuel rest
      | .continuation, none => [.closed false]
      | .continuation, some (isText, begun) =>
        let payload := begun ++ f.payload
        if f.final then
          match dataMessage? isText payload with
          | some m => m.event?.toList ++ eventsFrom none fuel rest
          | none => [.closed false]
        else eventsFrom (some (isText, payload)) fuel rest
      | _, some _ => [.closed false]
      | opcode, none =>
        if f.final then
          match dataMessage? (opcode == .text) f.payload with
          | some m => m.event?.toList ++ eventsFrom none fuel rest
          | none => [.closed false]
        else eventsFrom (some (opcode == .text, f.payload)) fuel rest

/-- What a client notices of a stream, up to the end of the connection. -/
def events (b : Octets) : List SocketEvent :=
  eventsFrom none (b.length + 1) b

/-- Whether a text may be sent as a header: no controls but the tab. -/
def isHeaderText (s : String) : Bool :=
  s.toList.all fun c => c == '\t' || (0x20 ≤ c.toNat && c.toNat != 0x7F)

/-- A server that can be tried, and whether it takes the connection. -/
inductive Server where
  /-- Nothing reaches it. -/
  | unreachable
  | rejecting
  | accepting

/-- A handshake with the given cookies: whether it reached the server, and why it failed. -/
def handshake (server : Server) (cookies : Option String) : Bool × Except Error Unit :=
  if !cookies.all isHeaderText then (false, .error (.connection .cookieHeader))
  else match server with
    | .unreachable => (false, .error .webSocket)
    | .rejecting => (true, .error .webSocket)
    | .accepting => (true, .ok ())

end Courier.WebSocket

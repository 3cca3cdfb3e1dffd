import Courier.Client.Basic

/-!
# Incoming frames

What a frame means is decided by its octets alone: it settles the request that its header
names, it is a message for a handler, or it is nothing.

* `Inbound.judge` makes that decision.
* `Client.receive` carries it out: at most one entry of the outbox is touched.
-/

namespace Courier

/-- What a frame means. -/
inductive Verdict where
  | nothing
  /-- The awaiting request of this number gets an outcome, by what it asked for. -/
  | settle (seq : ReqSeq) (outcome : ResponseType → Outcome)
  /-- A message of this method. -/
  | deliver (method : String) (content : Value)

/-- A frame that breaks the protocol: the request that its header names fails, if there is
one; a message names none. -/
def Verdict.broken (header : Record) (fault : ProtocolFault) : Verdict :=
  if header.kind = Kind.message.code then .nothing else
    match header.reqSeq with
    | some seq => .settle seq fun _ => .error (.protocol fault (some seq))
    | none => .nothing

/-- Decides what a frame means to a client of the given protocol version. -/
def Inbound.judge (version : UInt32) (b : Octets) : Verdict :=
  match Inbound.decode? b with
  | none => .nothing
  | some frame => match frame.content with
    | none => .broken frame.header .replyContent
    | some content =>
      if frame.header.version ≠ version then
        .broken frame.header (.replyVersion version frame.header.version)
      else match frame.header.check with
        | .error fault => .broken frame.header (.replyHeader fault frame.header)
        | .ok (.message method) => .deliver method content
        | .ok (.exception seq) => .settle seq fun _ => .error (.ofException seq content)
        | .ok (.reply seq) => .settle seq fun type => Reply.coerce seq type content
        | .ok (.request seq _) => .settle seq fun _ => .error (.protocol .replyKind (some seq))

/-- The cookie lines in the content of a message: the texts of an array, or one text. Other
content has none, not even an empty list. -/
def cookieLines? : Value → Option (List String)
  | .array items => some (items.filterMap Value.string?)
  | .text octets => some (Utf8.decode? octets).toList
  | _ => none

namespace Client

/-- Changes the cookies as a message says. -/
def applyCookieMessage (c : Client) (content : Value) : Client :=
  match cookieLines? content with
  | some lines => (c.updateCookies (·.applyLines lines)).1
  | none => c

/-- Hands a message to the handler of its method. -/
def dispatch (c : Client) (method : String) (content : Value) : Client :=
  match c.handlers.lookup method with
  | none => c
  | some .cookies => c.applyCookieMessage content
  | some (.application id) => c.note (.delivered id method content)

/-- Settles the awaiting request of a number, if there is one. -/
def answer (c : Client) (seq : ReqSeq) (outcome : ResponseType → Outcome) : Client :=
  match c.outbox.take? seq with
  | none => c
  | some (r, outbox) => settle { c with outbox := outbox } r.seq (outcome r.response)

/-- Takes in a frame. -/
def receive (c : Client) (b : Octets) : Client :=
  let c := c.note (.received b)
  match Inbound.judge c.config.version b with
  | .nothing => c
  | .settle seq outcome => c.answer seq outcome
  | .deliver method content => c.dispatch method content

end Client

end Courier

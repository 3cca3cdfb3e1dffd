import Courier.Client.Loop
import Courier.Text.Percent

/-!
# Handles

What an application can ask of a client. A request gets its number once everything about it
is known to be valid, so that a refused request leaves no trace; a file on disk is read
before the request is queued. Calls may overlap: between the moment when a call gets its
number and the moment when it posts its request, anything else may happen.

* `Client.begin` gives a request its number, or refuses it; `Client.finish` posts it.
* `Client.send` is both at once.
* `Client.uploadRead` continues a request whose file was read.
-/

namespace Courier

/-- The content and the file of a body. -/
def Body.split : Body → Except UploadFault (Value × Option Upload)
  | .empty => .ok (.nil, none)
  | .json j => .ok (j.toValue, none)
  | .form f => (f.split).map fun s => (s.content, s.file)

/-- The octets of a request. -/
def requestFrame (version : UInt32) (seq : ReqSeq) (uri : String) (content : Value)
    (attachment : Option Attachment) : Octets :=
  Frame.encode ⟨(Header.request seq uri).toRecord version, content, attachment.toList⟩

namespace Client

/-- What is checked before a request gets a number: its address and its body. -/
def prepare (uri : String) (body : Body) : Except Error (String × Value × Option Upload) :=
  match Percent.decode uri with
  | .error fault => .error (.invalidArgument (.uri uri fault))
  | .ok uri => match body.split with
    | .error fault => .error (.invalidUpload fault)
    | .ok (content, upload) => .ok (uri, content, upload)

/-- How far a call that sends a request got. -/
inductive Call where
  /-- The session was rotated: the reply has no number and comes to nothing. -/
  | skipped
  /-- The reply is handed out; the file of the request is read first. -/
  | reading (seq : ReqSeq)
  /-- The request has its number and is complete; the call goes on to post it. -/
  | complete (r : Request)

/-- Gives a prepared request the next number. -/
def accept (c : Client) (uri : String) (content : Value) (upload : Option Upload)
    (response : ResponseType) : Client × Call :=
  let seq := ReqSeq.next c.lastSeq
  let c := { c with lastSeq := seq }
  let complete (attachment : Option Attachment) : Client × Call :=
    let r := ⟨seq, requestFrame c.config.version seq uri content attachment, response⟩
    ({ c with calls := c.calls ++ [r] }, .complete r)
  match upload with
  | none => complete none
  | some u => match u.attachment? with
    | some a => complete (some a)
    | none => ({ c with uploads := c.uploads ++ [⟨seq, uri, content, u, response⟩] }, .reading seq)

/-- Begins a call: everything that can be wrong with it is found before it gets a number. -/
def begin (c : Client) (uri : String) (body : Body) (response : ResponseType) :
    Client × Except Error Call :=
  match c.checkSession with
  | (c, .rotated) => (c, .ok .skipped)
  | (c, .unchanged) =>
    if c.stopped then (c, .error .connectionClosed)
    else match prepare uri body with
      | .error e => (c, .error e)
      | .ok (uri, content, upload) =>
        let (c, call) := c.accept uri content upload response
        (c, .ok call)

/-- Ends a call: posts its request and hands out the reply, unless the loop has ended since the
call began. -/
def finish (c : Client) (r : Request) : Client × Except Error ReqSeq :=
  let c := { c with calls := c.calls.eraseP fun q => q.seq = r.seq }
  if c.stopped then (c, .error .connectionClosed) else (c.post (.enqueue r), .ok r.seq)

/-- Sends a request in one go. On a rotated session its reply has no number. -/
def send (c : Client) (uri : String) (body : Body) (response : ResponseType) :
    Client × Except Error (Option ReqSeq) :=
  match c.begin uri body response with
  | (c, .error e) => (c, .error e)
  | (c, .ok .skipped) => (c, .ok none)
  | (c, .ok (.reading seq)) => (c, .ok (some seq))
  | (c, .ok (.complete r)) => match c.finish r with
    | (c, .error e) => (c, .error e)
    | (c, .ok seq) => (c, .ok (some seq))

/-- Continues a request whose file was read, or fails it. -/
def uploadRead (c : Client) (seq : ReqSeq) (result : Except FileFault Octets) : Client :=
  match c.uploads.find? fun p => p.seq = seq with
  | none => c
  | some p =>
    let c := { c with uploads := c.uploads.eraseP fun p => p.seq = seq }
    match result with
    | .error fault => c.settle seq (.error (.file fault))
    | .ok octets =>
      if c.stopped then c.settle seq (.error .connectionClosed)
      else c.post (.enqueue ⟨seq, requestFrame c.config.version seq p.uri p.content
        (some ⟨p.upload.name, octets⟩), p.response⟩)

/-- Registers a handler of the application for a method, unless it has one. -/
def register (c : Client) (method : String) (id : Nat) : Client × Except Error Unit :=
  if (c.handlers.lookup method).isSome then (c, .error (.duplicateHandler method))
  else ({ c with handlers := c.handlers ++ [(method, .application id)] }, .ok ())

/-- Gives up the reply of a request. -/
def cancel (c : Client) (seq : ReqSeq) : Client :=
  { c with cancelled := seq :: c.cancelled }

/-- A client as it stands in a message. -/
def render (c : Client) : String :=
  "MsgRouter \x7b config: " ++ c.config.render ++ ", closed: "
    ++ (if c.stopped then "true" else "false") ++ ", .. \x7d"

end Client

end Courier

import Courier.Error
import Courier.Json.Parser

/-!
# Replies

What a request gets depends on what it asked for: the content as it is, a document, or
octets. An exception of the server becomes an error of its own.

* `Reply.coerce` reads the content of a reply as the request asked.
* `Error.ofException` reads the content of an exception.
-/

namespace Courier

/-- How the content of a reply is to be read. -/
inductive ResponseType where
  /-- As it is. -/
  | raw
  | json
  | blob
deriving DecidableEq

/-- A reply, read as its request asked. -/
inductive Reply where
  | raw (content : Value)
  | json (document : Json)
  | blob (octets : Octets)

namespace Reply

/-- The status of every reply. -/
def status : UInt16 := 200

/-- The document of a reply, if it is one. -/
def json? : Reply → Option Json
  | .json document => some document
  | _ => none

/-- The octets of a reply, if it is a blob. -/
def blob? : Reply → Option Octets
  | .blob octets => some octets
  | _ => none

end Reply

/-- The document that a content has the shape of. -/
def shapedAs (seq : ReqSeq) (content : Value) : Except Error Json :=
  match Json.ofValue? content with
  | some j => .ok j
  | none => .error (.protocol .notJsonShaped (some seq))

/-- The document of a content: of an array or a map by its shape, of a text by parsing. -/
def documentOf (seq : ReqSeq) (content : Value) : Except Error Json :=
  match content with
  | .text octets => match Utf8.decode? octets with
    | none => .error (.protocol .textNotUtf8 (some seq))
    | some s => match Json.parse? s with
      | none => .error (.protocol .textNotJson (some seq))
      | some j => .ok j
  | .array _ | .map _ => shapedAs seq content
  | _ => .error (.protocol (.notDocument content) (some seq))

/-- Reads the content of a reply as the request asked. A document with the key `error`,
whatever it holds, is an error. -/
def Reply.coerce (seq : ReqSeq) (type : ResponseType) (content : Value) : Except Error Reply :=
  match type with
  | .raw => .ok (.raw content)
  | .blob => match content with
    | .binary octets => .ok (.blob octets)
    | _ => .error (.protocol (.notBinary content) (some seq))
  | .json => match documentOf seq content with
    | .error e => .error e
    | .ok j => if (j.field? "error").isSome then .error (.errorReply j) else .ok (.json j)

/-- The route that stands for a status. -/
def httpRoute : String := "httpException"

/-- The status in the parameters of an exception, if it fits 16 bits. -/
def statusOf (params : Json) : UInt16 :=
  match (params.field? "code").bind Json.nat? with
  | some n => if n < 2 ^ 16 then UInt16.ofNat n else Error.protocolStatus
  | none => Error.protocolStatus

/-- Reads the content of an exception: its route and the parameters of the route. -/
def Error.ofException (seq : ReqSeq) (content : Value) : Error :=
  match shapedAs seq content with
  | .error e => e
  | .ok j => match (j.field? "routeName").bind Json.text? with
    | none => .protocol (.noRoute j) (some seq)
    | some route =>
      let params := (j.field? "params").getD .null
      if route = httpRoute then .http (statusOf params) else .serverException route params

end Courier

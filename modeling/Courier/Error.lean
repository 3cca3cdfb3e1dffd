import Courier.Config
import Courier.Cookie.Session
import Courier.Form
import Courier.Json.Printer
import Courier.Msgpack.Render
import Courier.Url.Basic

/-!
# Errors

Every error is a cause. `Error.message` words it, `Error.status?` is the status that a
rejected request reports, and the predicates sort errors by who can do something about them.
-/

namespace Courier

/-- What makes a configuration unusable. -/
inductive ConfigFault where
  | backoffTooShort (max : Duration)
  | cookieName (name : String)
  | cookieNameTooLong
  | urlMissing
  | urlMalformed (url : String) (fault : Url.Fault)
  | urlScheme (scheme : String)
  | noRuntime
  | stated (text : String)
deriving DecidableEq

/-- What makes an argument invalid. -/
inductive ArgumentFault where
  | uri (uri : String) (fault : Utf8.Fault)
  | stated (text : String)
deriving DecidableEq

/-- What made a connection fail. -/
inductive ConnectionFault where
  | refused
  | brokenPipe
  | cookieHeader
  | stated (text : String)
deriving DecidableEq

/-- How a frame breaks the protocol. -/
inductive ProtocolFault where
  | header (fault : Record.Fault) (record : Record)
  | frame (fault : FrameFault)
  /-- A reply came with such a header. -/
  | replyHeader (fault : Record.Fault) (record : Record)
  | replyContent
  | replyVersion (expected got : UInt32)
  | replyKind
  | notBinary (content : Value)
  | textNotUtf8
  | textNotJson
  | notJsonShaped
  | notDocument (content : Value)
  | noRoute (content : Json)
  | stated (text : String)

/-- What kept a file from being read. -/
inductive FileFault where
  | notFound
  | isDirectory
deriving DecidableEq

/-- Everything that can go wrong. -/
inductive Error where
  | config (fault : ConfigFault)
  | invalidArgument (fault : ArgumentFault)
  | invalidUpload (fault : UploadFault)
  | duplicateHandler (method : String)
  | connection (fault : ConnectionFault)
  | connectionClosed
  | protocol (fault : ProtocolFault) (seq : Option ReqSeq)
  | http (status : UInt16)
  | serverException (route : String) (params : Json)
  | errorReply (data : Json)
  | sessionRotated (cookieName : String)
  | abandoned
  | file (fault : FileFault)
  | json
  | unreadable
  | webSocket

/-- Words a configuration fault. -/
def ConfigFault.message : ConfigFault → String
  | .backoffTooShort max => "max_backoff must be at least 1s, got " ++ max.render
  | .cookieName name => "invalid session cookie name: " ++ quote name
  | .cookieNameTooLong => "session cookie pattern: Compiled regex exceeds size limit of "
      ++ toString Session.matcherLimit ++ " bytes."
  | .urlMissing => "WebSocket url is required. Use .url() to set it.\n"
      ++ "Example: MsgRouter::builder().url(\"ws://localhost:8000/ws\")"
  | .urlMalformed url fault => "invalid url " ++ quote url ++ ": " ++ fault.message
  | .urlScheme scheme => "url scheme must be ws or wss, got " ++ quote scheme
  | .noRuntime => "router must be built inside a tokio runtime: there is no reactor running, "
      ++ "must be called from the context of a Tokio 1.x runtime"
  | .stated text => text

/-- Words an argument fault. -/
def ArgumentFault.message : ArgumentFault → String
  | .uri given fault => "uri " ++ quote given ++ " is not valid: " ++ fault.message
  | .stated text => text

/-- Words a connection fault. -/
def ConnectionFault.message : ConnectionFault → String
  | .refused => "connection refused"
  | .brokenPipe => "broken pipe"
  | .cookieHeader => "invalid cookie header: failed to parse header value"
  | .stated text => text

/-- Words a fault of a frame. -/
def FrameFault.message : FrameFault → String
  | .unreadable => "unreadable segment"
  | .attachmentNotMap => "attachment is not a map"
  | .attachmentIncomplete => "attachment requires filename and blob"

/-- What stands before the words of a protocol fault. -/
def protocolHeading : String := "Protocol error: "

/-- What stands before the words of unreadable octets. -/
def unreadableHeading : String := "Msgpack decode error: "

/-- Words a protocol fault. -/
def ProtocolFault.message : ProtocolFault → String
  | .header fault record => fault.message record
  | .frame fault => fault.message
  | .replyHeader fault record => protocolHeading ++ fault.message record
  | .replyContent => "undecodable content: " ++ unreadableHeading ++ "not a value"
  | .replyVersion expected got => "protocol version mismatch: expected "
      ++ toString expected.toNat ++ ", got " ++ toString got.toNat
  | .replyKind => "unexpected HttpRequest frame for request"
  | .notBinary content => "expected binary content for blob reply, got " ++ content.render
  | .textNotUtf8 => "reply text is not UTF-8"
  | .textNotJson => "reply text is not JSON: no document"
  | .notJsonShaped => "content is not JSON-shaped: no document"
  | .notDocument content => "unexpected content for json reply: " ++ content.render
  | .noRoute content => "srException without routeName: " ++ content.render
  | .stated text => text

/-- Words a file fault. -/
def FileFault.message : FileFault → String
  | .notFound => "no such file"
  | .isDirectory => "is a directory"

namespace Error

/-- Words an error. -/
def message : Error → String
  | .config fault => "Configuration error: " ++ fault.message
  | .invalidArgument fault => "Invalid argument: " ++ fault.message
  | .invalidUpload fault => "Invalid upload: " ++ fault.message
  | .duplicateHandler method => "Async message handler already registered: " ++ method
  | .connection fault => "Connection failed: " ++ fault.message
  | .connectionClosed => "Connection closed"
  | .protocol fault _ => protocolHeading ++ fault.message
  | .http status => "HTTP error " ++ toString status.toNat
  | .serverException route _ => "Server exception: " ++ route
  | .errorReply data => "Server replied with error: " ++ data.render
  | .sessionRotated cookieName => "Session cookie " ++ cookieName ++ " was rotated externally"
  | .abandoned => "Request abandoned"
  | .file fault => "IO error: " ++ fault.message
  | .json => "JSON error: no document"
  | .unreadable => unreadableHeading ++ "not a value"
  | .webSocket => "WebSocket error: no connection"

/-- The status of a protocol error. -/
def protocolStatus : UInt16 := 500

/-- The status of a reply that reports an error. -/
def replyStatus : UInt16 := 200

/-- The status that a rejected request reports. -/
def status? : Error → Option UInt16
  | .protocol _ _ => some protocolStatus
  | .http status => some status
  | .errorReply _ => some replyStatus
  | _ => none

/-- Whether the server broke the protocol. -/
def isProtocol : Error → Bool
  | .protocol _ _ => true
  | _ => false

/-- Whether the caller made a mistake. -/
def isUsage : Error → Bool
  | .invalidArgument _ | .invalidUpload _ | .duplicateHandler _ => true
  | _ => false

/-- Whether the connection failed. -/
def isConnection : Error → Bool
  | .connection _ | .connectionClosed | .webSocket => true
  | _ => false

/-- Whether the request was given up without a reply. -/
def isAbandoned : Error → Bool
  | .abandoned => true
  | _ => false

/-- Whether the application has to start over. -/
def isSessionRotated : Error → Bool
  | .sessionRotated _ => true
  | _ => false

/-- The error of octets that are no frame. -/
def ofFrameFault : FrameFault → Error
  | .unreadable => .unreadable
  | fault => .protocol (.frame fault) none

/-- The error of a record that stands for no header. It is about the request that the record
names. -/
def ofRecordFault (r : Record) (fault : Record.Fault) : Error :=
  .protocol (.header fault r) r.reqSeq

end Error

/-- The header that a record stands for. -/
def Record.toHeader (r : Record) : Except Error Header :=
  r.check.mapError (.ofRecordFault r)

end Courier

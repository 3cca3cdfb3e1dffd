import Courier.Backoff
import Courier.Cookie.Jar
import Courier.Outbox
import Courier.Setup

/-!
# The client's state

A client sends requests over one connection, which it opens when it first needs it and
reopens when it is lost. Its handles post commands; its loop takes them one at a time and
reacts to the connection. Everything that happens is written into a history.

* `Client` is the whole state, between two turns of the loop.
* `Occurrence` is what the history records.
-/

namespace Courier

/-- What receives unasked messages of a method. -/
inductive Handler where
  /-- The client itself: the lines change its cookies. -/
  | cookies
  /-- The application, by the number under which it registered. -/
  | application (id : Nat)
deriving DecidableEq

/-- What a handle asks of the loop. -/
inductive Command where
  | enqueue (r : Request)
  | clear
  | query
  | shutdown
deriving DecidableEq

/-- A request whose file is still being read. -/
structure PendingUpload where
  seq : ReqSeq
  uri : String
  content : Value
  upload : Upload
  response : ResponseType

/-- The connection, with what it is waiting for. -/
inductive Link where
  /-- No connection, and no attempt under way or planned. -/
  | disconnected
  /-- A handshake that presented these cookies. -/
  | connecting (cookies : Option String)
  /-- A connection that the loop listens to. -/
  | opened (connection : Nat)
  /-- A connection that the queue is being emptied into. -/
  | draining (connection : Nat)
  /-- A connection that was handed a request and has not taken it yet. -/
  | sending (connection : Nat) (r : Request)
  /-- A pause of so many seconds before the next attempt. -/
  | waiting (secs : Nat)
deriving DecidableEq

namespace Link

/-- The state of a connection, without details. -/
def name : Link → String
  | .disconnected => "disconnected"
  | .connecting _ => "connecting"
  | .opened _ | .draining _ | .sending _ _ => "open"
  | .waiting _ => "reconnect-scheduled"

/-- Whether the queue is being emptied; until that is done the loop hears of nothing else. -/
def isBusy : Link → Bool
  | .draining _ | .sending _ _ => true
  | _ => false

end Link

/-- A count of the requests, and the state of the connection. -/
structure Stats where
  queued : Nat
  awaiting : Nat
  link : Link
  backoff : Duration
deriving DecidableEq

/-- All requests that are neither answered nor given up. -/
def Stats.pending (s : Stats) : Nat := s.queued + s.awaiting

/-- What a request comes to. -/
abbrev Outcome := Except Error Reply

/-- Something that happened. -/
inductive Occurrence where
  /-- The loop queued a request. -/
  | queued (r : Request)
  /-- A handshake was started with these cookies. -/
  | dialled (cookies : Option String)
  /-- A handshake succeeded. -/
  | opened (connection : Nat)
  /-- A request was handed to a connection. -/
  | handed (connection : Nat) (r : Request)
  /-- A connection took the request that it was handed. -/
  | taken (connection : Nat) (r : Request)
  /-- A frame came in. -/
  | received (frame : Octets)
  /-- A connection or an attempt ended, and the next was planned. -/
  | ended (clean : Bool) (secs : Nat)
  /-- A request got its outcome. -/
  | settled (seq : ReqSeq) (outcome : Outcome)
  /-- A request was thrown away because nobody waits for it. -/
  | discarded (seq : ReqSeq)
  /-- A message went to a handler of the application. -/
  | delivered (handler : Nat) (method : String) (content : Value)
  /-- The cookies were changed by the client. -/
  | cookiesChanged
  /-- The loop answered a query. -/
  | reported (stats : Stats)
  /-- The client closed a connection. -/
  | shut (connection : Nat)

/-- A client between two turns of its loop. -/
structure Client where
  config : Config
  /-- The store of cookies, which others may change too. -/
  jar : Jar
  session : Session
  handlers : List (String × Handler)
  /-- The last number that was given to a request. -/
  lastSeq : ReqSeq
  /-- Whether there is still a handle. -/
  held : Bool
  /-- The requests whose replies nobody waits for any more. -/
  cancelled : List ReqSeq
  /-- Requests of calls that have yet to post them, and to hand out their replies. -/
  calls : List Request
  uploads : List PendingUpload
  /-- Commands that the loop has not taken yet. -/
  inbox : List Command
  outbox : Outbox
  link : Link
  /-- How many handshakes succeeded. -/
  connections : Nat
  backoff : Backoff
  /-- Whether the loop has ended. -/
  stopped : Bool
  /-- What happened, the latest first. -/
  history : List Occurrence

namespace Client

/-- The method whose messages change the cookies. -/
def cookiesMethod : String := "setCookies"

/-- A client that has done nothing yet. -/
def start (config : Config) (session : Session) (jar : Jar) : Client where
  config := config
  jar := jar
  session := session
  handlers := [(cookiesMethod, .cookies)]
  lastSeq := 0
  held := true
  cancelled := []
  calls := []
  uploads := []
  inbox := []
  outbox := .empty
  link := .disconnected
  connections := 0
  backoff := .new config.maxBackoff
  stopped := false
  history := []

/-- Records an occurrence. -/
def note (c : Client) (o : Occurrence) : Client :=
  { c with history := o :: c.history }

/-- Gives a request its outcome. -/
def settle (c : Client) (seq : ReqSeq) (outcome : Outcome) : Client :=
  c.note (.settled seq outcome)

/-- Gives requests the same error. -/
def settleAll (c : Client) (rs : List Request) (e : Error) : Client :=
  rs.foldl (fun c r => c.settle r.seq (.error e)) c

/-- Gives every queued and awaiting request the same error. -/
def failAll (c : Client) (e : Error) : Client :=
  settleAll { c with outbox := c.outbox.drain.2 } c.outbox.drain.1 e

/-- Whether nobody waits for the reply of a request any more. -/
def isCancelled (c : Client) (seq : ReqSeq) : Bool :=
  c.cancelled.contains seq

/-- The outcome that a request got, if it got one. -/
def outcome? (c : Client) (seq : ReqSeq) : Option Outcome :=
  c.history.findSome? fun
    | .settled n outcome => if n = seq then some outcome else none
    | _ => none

/-- Posts a command, as long as the loop runs. -/
def post (c : Client) (command : Command) : Client :=
  if c.stopped then c else { c with inbox := c.inbox ++ [command] }

/-- What a query answers. -/
def stats (c : Client) : Stats where
  queued := c.outbox.queue.length
  awaiting := c.outbox.awaiting.length
  link := c.link
  backoff := c.backoff.current

/-- Compares the cookies with the last that were seen. -/
def checkSession (c : Client) : Client × SessionStatus :=
  let (session, status) := c.session.check c.jar.header
  ({ c with session := session }, status)

/-- Changes the cookies, unless the session was rotated. -/
def updateCookies (c : Client) (change : Jar → Jar) : Client × Except Error Unit :=
  match c.session.update Jar.header c.jar change with
  | (session, jar, true) =>
    (note { c with session := session, jar := jar } .cookiesChanged, .ok ())
  | (session, jar, false) =>
    ({ c with session := session, jar := jar }, .error (.sessionRotated session.cookieName))

end Client

end Courier

import Courier.Client.Inbound

/-!
# The loop

The loop takes commands from the inbox and reacts to the connection. A queue that is not
empty opens a connection; an open connection empties the queue, one request after the other,
each once the last was taken. When a connection is lost, the next attempt is planned after a
pause, and unless it was closed properly the unanswered requests are transmitted again.

* `flush` opens a connection or begins to empty the queue into it.
* `drainNext` hands over one request.
* `disconnect` plans the next attempt.
* `takeCommand` takes one command, `stop` ends the loop.
-/

namespace Courier.Client

/-- Starts a handshake with the current cookies. On a rotated session every request fails
instead. -/
def connect (c : Client) : Client :=
  match c.checkSession with
  | (c, .rotated) =>
    failAll { c with link := .disconnected } (.sessionRotated c.session.cookieName)
  | (c, .unchanged) =>
    note { c with link := .connecting c.jar.header? } (.dialled c.jar.header?)

/-- Reacts to the end of a connection or an attempt. Only the first end after an open puts
the unanswered requests back into the queue, and only if it was not a clean one. -/
def disconnect (c : Client) (clean : Bool) : Client :=
  match c.link with
  | .waiting _ => c
  | _ =>
    let outbox := if c.backoff.isIdle ∧ !clean then c.outbox.requeue.2 else c.outbox
    let backoff := c.backoff.escalate
    note { c with outbox := outbox, backoff := backoff, link := .waiting backoff.secs }
      (.ended clean backoff.secs)

/-- Begins to empty the queue into an open connection, or opens one for it. -/
def flush (c : Client) : Client :=
  match c.link with
  | .opened connection => { c with link := .draining connection }
  | .disconnected => if c.outbox.queue.isEmpty then c else c.connect
  | _ => c

/-- Hands the next request of the queue to a connection, or listens to it again when there is
none left. A cancelled request is thrown away. A request is entered as sent before the
connection takes it. -/
def drainNext (c : Client) (connection : Nat) : Client :=
  match c.outbox.pop? with
  | none => { c with link := .opened connection }
  | some (r, outbox) =>
    if c.isCancelled r.seq then note { c with outbox := outbox } (.discarded r.seq)
    else note { c with outbox := outbox.markSent r, link := .sending connection r }
      (.handed connection r)

/-- Queues a request, unless nobody waits for it any more. -/
def enqueue (c : Client) (r : Request) : Client :=
  if c.isCancelled r.seq then c.note (.discarded r.seq)
  else flush (note { c with outbox := c.outbox.push r } (.queued r))

/-- The requests that commands ask to queue. -/
def requestsOf (commands : List Command) : List Request :=
  commands.filterMap fun
    | .enqueue r => some r
    | _ => none

/-- Ends the loop: whatever is unsettled fails, and an open connection is closed. -/
def stop (c : Client) : Client :=
  let c := settleAll { c with inbox := [], stopped := true } (requestsOf c.inbox) .connectionClosed
  let c := match c.link with
    | .opened connection => c.note (.shut connection)
    | _ => c
  failAll { c with link := .disconnected } .connectionClosed

/-- Takes the next command. -/
def takeCommand (c : Client) : Client :=
  match c.inbox with
  | [] => c
  | command :: rest =>
    let c := { c with inbox := rest }
    match command with
    | .enqueue r => c.enqueue r
    | .clear => c.failAll .abandoned
    | .query => c.note (.reported c.stats)
    | .shutdown => c.stop

/-- Whether nobody can command the loop any more. -/
def isDeserted (c : Client) : Bool :=
  !c.stopped && !c.held && c.calls.isEmpty && c.uploads.isEmpty && c.inbox.isEmpty

/-- Reacts to a handshake that succeeded. -/
def connected (c : Client) : Client :=
  flush (note { c with
    backoff := c.backoff.reset
    link := .opened c.connections
    connections := c.connections + 1 } (.opened c.connections))

/-- Reacts to the end of a pause. -/
def retry (c : Client) : Client :=
  connect { c with link := .disconnected }

end Courier.Client

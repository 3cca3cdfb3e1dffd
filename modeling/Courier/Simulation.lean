import Courier.Client.Run

/-!
# A simulated network

A client in a world of its own: a server in memory, files that are read when they are asked
for, and a clock that moves only when somebody sleeps. The loop always takes its commands
before it looks at the connection.

* `World.settle` lets the loop run until it has nothing more to do at the current time.
* `World.sleep` moves the clock, and lets pauses end on the way.
* `World.report` tells what happened since the last report.
-/

namespace Courier

/-- What a server sends on a connection. -/
inductive Delivery where
  | frame (b : Octets)
  | closed (clean : Bool)

/-- The server's end of a connection: what the client has not taken yet, whether there will be
more, and how many more frames it takes before it breaks, or any number. -/
structure Peer where
  outgoing : List Delivery
  exhausted : Bool
  accepts : Option Nat

/-- A reply that the application holds. -/
structure HeldReply where
  seq : Option ReqSeq
  /-- Whether it was neither reported nor dropped. -/
  held : Bool

/-- A client and everything around it; times are in milliseconds. -/
structure World where
  client : Client
  now : Nat
  /-- How many handshakes may go on, or any number. -/
  permits : Option Nat
  /-- How many handshakes the server will refuse. -/
  refusals : Nat
  refusesAll : Bool
  /-- The frame on which the next connection will break, counted from one. -/
  breaksAt : Option Nat
  peers : List Peer
  /-- Whether the server knows of the handshake under way. -/
  knocked : Bool
  /-- When the pause before the next attempt ends. -/
  due : Nat
  /-- Files being read, with what the reading will give. -/
  reads : List (ReqSeq × Except FileFault Octets)
  replies : List HeldReply
  /-- Handshakes since the last report, the latest first. -/
  knocks : List (Nat × Option String)
  /-- The length of the history at the last report. -/
  reported : Nat

namespace World

/-- A world in which nothing has happened yet. -/
def start (client : Client) (permits : Option Nat) : World where
  client := client
  now := 0
  permits := permits
  refusals := 0
  refusesAll := false
  breaksAt := none
  peers := []
  knocked := false
  due := 0
  reads := []
  replies := []
  knocks := []
  reported := 0

/-- An event for the client. A pause that it begins is timed from now. -/
def happen (w : World) (e : Event) : World :=
  let client := w.client.step e
  let due := match w.client.link, client.link with
    | .waiting _, _ => w.due
    | _, .waiting secs => w.now + secs * 1000
    | _, _ => w.due
  { w with client := client, due := due }

/-- How many frames the next connection will take before it breaks, or any number. -/
def accepts (w : World) : Option Nat :=
  match w.breaksAt with
  | some (n + 1) => some n
  | _ => none

/-- A handshake: the server sees it, waits for a permit, and refuses or accepts it. -/
def handshake (w : World) (cookies : Option String) : Option World :=
  let w' := if w.knocked then w else
    { w with knocked := true, knocks := (w.now, cookies) :: w.knocks }
  if w.permits = some 0 then (if w.knocked then none else some w')
  else
    let w' := { w' with permits := w.permits.map (· - 1), knocked := false }
    if w.refusesAll ∨ 0 < w.refusals then
      some (happen { w' with refusals := w.refusals - 1 } .refused)
    else
      some (happen { w' with breaksAt := none, peers := w.peers ++ [⟨[], false, w.accepts⟩] }
        .connected)

/-- What comes next on a connection; an exhausted one ends uncleanly. -/
def incoming (w : World) (connection : Nat) : Option World :=
  match w.peers[connection]? with
  | none => none
  | some peer => match peer.outgoing with
    | d :: rest =>
      let w := { w with peers := w.peers.set connection { peer with outgoing := rest } }
      match d with
      | .frame b => some (w.happen (.received b))
      | .closed clean => some (w.happen (.closed clean))
    | [] => if peer.exhausted then some (w.happen (.closed false)) else none

/-- A connection takes the frame that it was handed, or breaks on it. -/
def transfer (w : World) (connection : Nat) : World :=
  match w.peers[connection]? with
  | none => w.happen .taken
  | some peer =>
    if peer.accepts = some 0 then w.happen .broken
    else happen { w with
      peers := w.peers.set connection { peer with accepts := peer.accepts.map (· - 1) } } .taken

/-- One turn of the loop that takes commands or empties the queue, if there is any to do. -/
def ownTurn (w : World) : Option World :=
  match w.client.link with
  | .draining _ => some (w.happen .next)
  | .sending connection _ => some (w.transfer connection)
  | _ => if w.client.inbox.isEmpty then none else some (w.happen .command)

/-- One turn of the loop, if it has anything to do at the current time. -/
def turn (w : World) : Option World :=
  if w.client.stopped then none
  else w.ownTurn <|>
    if w.client.isDeserted then some (w.happen .deserted)
    else match w.client.link with
      | .connecting cookies => w.handshake cookies
      | .opened connection => w.incoming connection
      | .waiting _ => if w.due ≤ w.now then some (w.happen .retry) else none
      | _ => none

/-- So many turns of the loop at most. -/
def turns (w : World) : Nat → World
  | 0 => w
  | n + 1 => match w.turn with
    | some w => w.turns n
    | none => w

/-- How many turns the commands and the queue take at most: one to take a command, and three
to hand over a request. -/
def ownTurns (w : World) : Nat :=
  4 * (w.client.inbox.length + w.client.outbox.queue.length) + 2

/-- Lets the loop run until it has nothing to do. A delivery takes one turn, and without any
there is at most one attempt to connect. -/
def idle (w : World) : World :=
  w.turns (w.ownTurns + w.peers.foldl (fun n p => n + p.outgoing.length) 0 + 8)

/-- Lets the loop take the commands that are waiting. -/
def takeCommands (w : World) : World :=
  (List.replicate w.ownTurns ()).foldl (fun w _ => w.ownTurn.getD w) w

/-- Lets the loop run until it has nothing to do and all files are read. -/
def settle (w : World) : World :=
  let w := w.idle
  let reads := w.reads
  idle (reads.foldl (fun w (seq, result) => w.happen (.uploadRead seq result))
    { w with reads := [] })

/-- Moves the clock to a time, ending at most so many pauses that are over before it. -/
def advance (w : World) (time : Nat) : Nat → World
  | 0 => { w with now := time }
  | n + 1 => match w.client.link with
    | .waiting _ =>
      if w.due < time then settle { w with now := w.due } |>.advance time n
      else { w with now := time }
    | _ => { w with now := time }

/-- Sleeps for so many milliseconds, which is nothing at all when there are none. Whoever slept
goes on before the loop does: a pause that is over at the same moment ends only when the loop
runs again. No pause is shorter than a second. -/
def sleep (w : World) (ms : Nat) : World :=
  if ms = 0 then w else w.settle.advance (w.now + ms) (ms / 1000 + 2)

/-- Sends a request whose files read as given, and holds its reply. -/
def send (w : World) (uri : String) (body : Body) (response : ResponseType)
    (file : Except FileFault Octets) : World × Except Error (Nat × Option ReqSeq) :=
  let (client, result) := w.client.send uri body response
  let reads := if w.client.uploads.length < client.uploads.length then
    w.reads ++ [(client.lastSeq, file)] else w.reads
  let w' := { w with client := client, reads := reads }
  match result with
  | .error e => (w', .error e)
  | .ok seq => ({ w' with replies := w.replies ++ [⟨seq, true⟩] }, .ok (w.replies.length, seq))

/-- Drops a reply; tells whether it was still held. -/
def drop (w : World) (i : Nat) : World × Bool :=
  match w.replies[i]? with
  | none => (w, false)
  | some r =>
    if !r.held then (w, false) else
      let w := { w with replies := w.replies.set i { r with held := false } }
      (match r.seq with
        | some seq => w.happen (.cancel seq)
        | none => w, true)

/-- Whether the client holds a connection. -/
def isHeld (w : World) (connection : Nat) : Bool :=
  match w.client.link with
  | .opened n | .draining n | .sending n _ => n == connection
  | _ => false

/-- Changes the server's end of a connection, the newest unless one is named. Tells whether
the client could notice, or nothing when there is no such connection. -/
def onPeer (w : World) (connection : Option Nat) (change : Peer → Peer) : World × Option Bool :=
  match connection.or (if w.peers = [] then none else some (w.peers.length - 1)) with
  | none => (w, none)
  | some n => match w.peers[n]? with
    | none => (w, none)
    | some peer =>
      if w.isHeld n ∧ !peer.exhausted then
        ({ w with peers := w.peers.set n (change peer) }, some true)
      else (w, some false)

/-- The server sends something. -/
def deliver (w : World) (connection : Option Nat) (d : Delivery) : World × Option Bool :=
  w.onPeer connection fun peer => { peer with outgoing := peer.outgoing ++ [d] }

/-- The server goes away without closing. -/
def exhaust (w : World) (connection : Option Nat) : World × Option Bool :=
  w.onPeer connection fun peer => { peer with exhausted := true }

/-- Asks the loop for its statistics; an ended loop has none. -/
def query (w : World) : World × Except Error Stats :=
  let w := (w.happen .query).takeCommands
  if w.client.stopped then (w, .error .connectionClosed)
  else match w.client.history with
    | .reported stats :: _ => (w.idle, .ok stats)
    | _ => (w, .error .connectionClosed)

/-- The outcome of a reply, if it has one; a reply without a number comes to nothing. -/
def outcome? (w : World) (r : HeldReply) : Option Outcome :=
  match r.seq with
  | none => some (.error .abandoned)
  | some seq => w.client.outcome? seq

/-- What happened since the last report. -/
structure Report where
  /-- Nothing when there is no handle to ask. -/
  stats : Option (Except Error Stats)
  sent : List (Nat × Octets)
  settled : List (Nat × Outcome)
  knocks : List (Nat × Option String)
  delivered : List (String × Value)
  shut : List Nat

/-- Lets everything settle and tells what happened. -/
def report (w : World) : World × Report :=
  let w := w.settle
  let stats := if w.client.held then
    some (if w.client.stopped then .error .connectionClosed else .ok w.client.stats) else none
  let recent := (w.client.history.take (w.client.history.length - w.reported)).reverse
  let settled := w.replies.zipIdx.filterMap fun (r, i) =>
    if r.held then (w.outcome? r).map fun outcome => (i, outcome) else none
  let replies := w.replies.map fun r => { r with held := r.held && (w.outcome? r).isNone }
  let sent := (List.range w.peers.length).flatMap fun n => recent.filterMap fun
    | .taken connection r => if connection = n then some (n, r.frame) else none
    | _ => none
  ({ w with knocks := [], replies := replies, reported := w.client.history.length },
    { stats := stats
      sent := sent
      settled := settled
      knocks := w.knocks.reverse
      delivered := recent.filterMap fun
        | .delivered _ method content => some (method, content)
        | _ => none
      shut := recent.filterMap fun
        | .shut connection => some connection
        | _ => none })

end World

end Courier

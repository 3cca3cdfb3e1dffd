import Courier.Client.Handle

/-!
# Runs

A run is a sequence of events: what handles ask, what the environment does to files and
cookies, and what the connection does. Events may come in any order; one that does not fit
the state changes nothing.

* `Client.step` is one event, `Client.run` a sequence of them.
-/

namespace Courier

/-- Something that can happen to a client. -/
inductive Event where
  /-- A handle begins to send a request. -/
  | send (uri : String) (body : Body) (response : ResponseType)
  /-- A call that has given this number to its request posts it. -/
  | finish (seq : ReqSeq)
  /-- A reply is given up. -/
  | cancel (seq : ReqSeq)
  /-- A handle registers a handler. -/
  | register (method : String) (id : Nat)
  /-- A handle changes the cookies. -/
  | updateCookies (change : Jar → Jar)
  /-- Somebody else changes the cookies. -/
  | foreign (change : Jar → Jar)
  /-- A handle posts a command. -/
  | clear
  | query
  | shutdown
  /-- The last handle is dropped. -/
  | release
  /-- The file of a request was read, or could not be. -/
  | uploadRead (seq : ReqSeq) (result : Except FileFault Octets)
  /-- The loop takes the next command. -/
  | command
  /-- The loop learns that there will be no more commands. -/
  | deserted
  /-- The handshake succeeds. -/
  | connected
  /-- The handshake fails. -/
  | refused
  /-- The server sends a frame. -/
  | received (frame : Octets)
  /-- The connection ends; one that just stops delivering ends uncleanly. -/
  | closed (clean : Bool)
  /-- The loop turns to the next request of the queue that it is emptying. -/
  | next
  /-- The connection takes the request that it was handed. -/
  | taken
  /-- The connection breaks on the request that it was handed. -/
  | broken
  /-- The pause before the next attempt is over. -/
  | retry

namespace Client

/-- One event. -/
def step (c : Client) : Event → Client
  | .send uri body response => if c.held then (c.begin uri body response).1 else c
  | .finish seq => match c.calls.find? fun r => r.seq = seq with
    | some r => (c.finish r).1
    | none => c
  | .cancel seq => c.cancel seq
  | .register method id => if c.held then (c.register method id).1 else c
  | .updateCookies change => if c.held then (c.updateCookies change).1 else c
  | .foreign change => { c with jar := change c.jar }
  | .clear => if c.held then c.post .clear else c
  | .query => if c.held then c.post .query else c
  | .shutdown => if c.held then c.post .shutdown else c
  | .release => { c with held := false }
  | .uploadRead seq result => c.uploadRead seq result
  | .command => if c.link.isBusy then c else c.takeCommand
  | .deserted => if c.isDeserted && !c.link.isBusy then c.stop else c
  | .connected => match c.link with
    | .connecting _ => c.connected
    | _ => c
  | .refused => match c.link with
    | .connecting _ => c.disconnect false
    | _ => c
  | .received frame => match c.link with
    | .opened _ => c.receive frame
    | _ => c
  | .closed clean => match c.link with
    | .opened _ => c.disconnect clean
    | _ => c
  | .next => match c.link with
    | .draining connection => c.drainNext connection
    | _ => c
  | .taken => match c.link with
    | .sending connection r =>
      note { c with link := .draining connection } (.taken connection r)
    | _ => c
  | .broken => match c.link with
    | .sending _ _ => c.disconnect false
    | _ => c
  | .retry => match c.link with
    | .waiting _ => c.retry
    | _ => c

/-- A sequence of events. -/
def run (c : Client) (events : List Event) : Client :=
  events.foldl step c

end Client

end Courier

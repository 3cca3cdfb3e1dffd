import Courier.Client.Run
import Mathlib.Data.List.Dedup

/-!
# What can be observed of a run

A run is judged by what its events do to requests: which numbers they hand out, which commands
the loop takes, which requests it queues. What it hands to connections is read off the history
that it leaves.

* `Client.along` collects what the events of a run do, in order.
* `Client.handedIn` is what a run adds to the record of what was handed over.
* `Client.numbersAt` says which requests are at each of the places where a request can be.
* `Client.unanswered` lists the unanswered requests by their last transmission.
-/

namespace Courier

/-- Where a request can be. -/
inductive Place where
  /-- Its file is being read. -/
  | reading
  /-- The loop has not taken its command yet. -/
  | posted
  | queued
  | awaiting
  | settled
  /-- It was thrown away because nobody waited for it. -/
  | discarded
deriving DecidableEq

namespace Occurrence

/-- The number of the request that was settled. -/
@[simp] def settled? : Occurrence → Option ReqSeq
  | .settled seq _ => some seq
  | _ => none

/-- The number of the request that was thrown away. -/
@[simp] def discarded? : Occurrence → Option ReqSeq
  | .discarded seq => some seq
  | _ => none

/-- The request that was handed to a connection, and the connection. -/
@[simp] def handed? : Occurrence → Option (Nat × Request)
  | .handed connection r => some (connection, r)
  | _ => none

end Occurrence

/-- Whether an event is one of the application and its environment: the others are those of the
loop and of the network. -/
def Event.isApplication : Event → Bool
  | .command | .deserted | .connected | .refused | .received _ | .closed _ | .next | .taken
  | .broken | .retry => false
  | _ => true

/-- Whether an event of the application concerns requests or the handle alone: it neither looks at
the cookies nor registers a handler. -/
def Event.isPlain : Event → Bool
  | .finish _ | .cancel _ | .clear | .query | .shutdown | .release | .uploadRead _ _ => true
  | _ => false

/-- What an open connection is in for: it is handed something, or it ends uncleanly. -/
inductive Passage (α : Type) where
  | handed (connection : Nat) (a : α)
  | lost
deriving DecidableEq

namespace Passage

variable {α β : Type}

/-- The same with something else in place of what is handed over. -/
@[simp] def map (f : α → β) : Passage α → Passage β
  | .handed connection a => .handed connection (f a)
  | .lost => .lost

/-- What is handed over. -/
@[simp] def handed? : Passage α → Option α
  | .handed _ a => some a
  | .lost => none

/-- What is handed to one connection. -/
@[simp] def handedTo? (connection : Nat) : Passage α → Option α
  | .handed k a => if k = connection then some a else none
  | .lost => none

end Passage

/-- The connection of a link that has one. -/
def Link.connection? : Link → Option Nat
  | .opened connection | .draining connection | .sending connection _ => some connection
  | _ => none

namespace Client

/-- The numbers of the requests at a place. -/
def numbersAt (c : Client) : Place → List ReqSeq
  | .reading => c.uploads.map (·.seq)
  | .posted => (requestsOf c.inbox).map (·.seq)
  | .queued => c.outbox.queue.map (·.seq)
  | .awaiting => c.outbox.awaiting.map (·.1)
  | .settled => c.history.filterMap Occurrence.settled?
  | .discarded => c.history.filterMap Occurrence.discarded?

/-- What was handed to connections, in order. -/
def handOvers (c : Client) : List (Nat × Request) :=
  (c.history.filterMap Occurrence.handed?).reverse

/-- What was handed to one connection, in order. -/
def handedTo (c : Client) (connection : Nat) : List Request :=
  (c.handOvers.filter fun h => h.1 = connection).map (·.2)

/-- The requests that are to be answered, in the order in which they were last transmitted. -/
def unanswered (c : Client) : List Request :=
  (c.handOvers.map (·.2)).dedup.filter fun r => r ∈ c.outbox.awaiting.map (·.2.request)

/-- The number that an event gives to a request. -/
def allocates (c : Client) : Event → Option ReqSeq
  | .send uri body response =>
    if c.held then
      match (c.begin uri body response).2 with
      | .ok (.reading seq) => some seq
      | .ok (.complete r) => some r.seq
      | _ => none
    else none
  | _ => none

/-- The number under which an event hands out a reply. -/
def handsOut (c : Client) : Event → Option ReqSeq
  | .send uri body response =>
    if c.held then
      match (c.begin uri body response).2 with
      | .ok (.reading seq) => some seq
      | _ => none
    else none
  | .finish seq => (c.calls.find? fun r => r.seq = seq).bind fun r => (c.finish r).2.toOption
  | _ => none

/-- The handler that an event asks to register, and its method. -/
def registers (c : Client) : Event → Option (String × Nat)
  | .register method id => if c.held then some (method, id) else none
  | _ => none

/-- The command that the loop takes. -/
def takes (c : Client) : Event → Option Command
  | .command => if c.link.isBusy then none else c.inbox.head?
  | _ => none

/-- The request that the loop receives, whether it queues it or throws it away. -/
def receives (c : Client) (e : Event) : Option Request :=
  match c.takes e with
  | some (.enqueue r) => some r
  | _ => none

/-- The request that the loop queues. -/
def queues (c : Client) (e : Event) : Option Request :=
  match c.takes e with
  | some (.enqueue r) => if c.isCancelled r.seq then none else some r
  | _ => none

/-- The request that the loop reaches while it empties the queue, and whether somebody still
waits for its reply. -/
def reaches (c : Client) : Event → Option (Request × Bool)
  | .next => match c.link with
    | .draining _ => c.outbox.queue.head?.map fun r => (r, !c.isCancelled r.seq)
    | _ => none
  | _ => none

/-- The request that the loop is about to hand to a connection, and the connection. -/
def hands (c : Client) (e : Event) : Option (Nat × Request) :=
  match c.link, c.reaches e with
  | .draining connection, some (r, true) => some (connection, r)
  | _, _ => none

/-- Whether an event ends an open connection uncleanly: it closes so or delivers no more, or it
breaks on a request that it was handed. -/
def breaks (c : Client) : Event → Bool
  | .closed clean => match c.link with
    | .opened _ => !clean
    | _ => false
  | .broken => match c.link with
    | .sending _ _ => true
    | _ => false
  | _ => false

/-- What the events of a run do, in order. -/
def along {α : Type} (f : Client → Event → Option α) (c : Client) : List Event → List α
  | [] => []
  | e :: es => (f c e).toList ++ along f (c.step e) es

/-- What a run hands over, by the history that it leaves: what is recorded at its end and was not
at its beginning. -/
def handedIn (c : Client) (es : List Event) : List (Nat × Request) :=
  (c.run es).handOvers.drop c.handOvers.length

/-- What the open connections of a run were in for: what each event hands over, by the history
that it leaves, and which events end a connection uncleanly. -/
def passagesIn (c : Client) : List Event → List (Passage Request)
  | [] => []
  | e :: es => (c.handedIn [e]).map (fun h => .handed h.1 h.2) ++
      (if c.breaks e then [.lost] else []) ++ passagesIn (c.step e) es

/-- Whether each event of a run comes while the queue is being emptied. -/
def drains (c : Client) : List Event → Bool
  | [] => true
  | e :: es => c.link.isBusy && drains (c.step e) es

/-- Whether some run leads to a client. -/
def Reachable (c : Client) : Prop :=
  ∃ config session jar events, c = (start config session jar).run events

end Client

end Courier

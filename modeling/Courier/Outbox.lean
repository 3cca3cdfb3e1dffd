import Courier.Reply

/-!
# The outbox

Requests wait in a queue until they are transmitted, and then in a table, keyed by their
number, until they are answered. Each transmission is stamped, so that the table can be
brought back into the order of transmission.

* `Outbox.requeue` puts every unanswered request back in front of the queue, in the order in
  which they were transmitted.
* `Outbox.drain` takes everything out.
-/

namespace Courier

/-- A request whose frame is complete. -/
structure Request where
  seq : ReqSeq
  frame : Octets
  response : ResponseType
deriving DecidableEq

/-- A transmitted request and the stamp of its transmission. -/
structure InFlight where
  stamp : Nat
  request : Request
deriving DecidableEq

/-- Requests to be transmitted, and requests to be answered. -/
structure Outbox where
  queue : List Request
  /-- The unanswered requests, each under the number that its answer has to name. -/
  awaiting : List (ReqSeq × InFlight)
  nextStamp : Nat
deriving DecidableEq

namespace Outbox

/-- No requests. -/
def empty : Outbox := ⟨[], [], 0⟩

/-- Queues a request. -/
def push (o : Outbox) (r : Request) : Outbox :=
  { o with queue := o.queue ++ [r] }

/-- The first request of the queue and the outbox without it. -/
def pop? (o : Outbox) : Option (Request × Outbox) :=
  match o.queue with
  | [] => none
  | r :: rest => some (r, { o with queue := rest })

/-- Enters a request into the table, replacing an entry of the same number. -/
def markSent (o : Outbox) (r : Request) : Outbox :=
  { o with
    awaiting := o.awaiting.filter (fun e => e.1 ≠ r.seq) ++ [(r.seq, ⟨o.nextStamp, r⟩)]
    nextStamp := o.nextStamp + 1 }

/-- The request of the table under the given number and the outbox without it. -/
def take? (o : Outbox) (seq : ReqSeq) : Option (Request × Outbox) :=
  match o.awaiting.lookup seq with
  | none => none
  | some e => some (e.request, { o with awaiting := o.awaiting.filter fun e => e.1 ≠ seq })

/-- Inserts a transmitted request in front of the first one with a later stamp. -/
def insertByStamp (e : InFlight) : List InFlight → List InFlight
  | [] => [e]
  | f :: later => if e.stamp ≤ f.stamp then e :: f :: later else f :: insertByStamp e later

/-- The requests of the table in the order of their stamps. -/
def inOrder (o : Outbox) : List Request :=
  ((o.awaiting.map (·.2)).foldr insertByStamp []).map (·.request)

/-- Puts the requests of the table in front of the queue, in the order of their stamps, and
tells how many they were. -/
def requeue (o : Outbox) : Nat × Outbox :=
  (o.awaiting.length, { o with queue := o.inOrder ++ o.queue, awaiting := [] })

/-- Takes out every request. -/
def drain (o : Outbox) : List Request × Outbox :=
  (o.queue ++ o.awaiting.map (·.2.request), { o with queue := [], awaiting := [] })

end Outbox

end Courier

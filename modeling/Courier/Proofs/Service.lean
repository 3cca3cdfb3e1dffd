import Courier.Proofs.Inbound
import Courier.Client.Observation

/-!
# A client and its server

A server answers the frame of a request with at most one frame, which is a function of the
octets that it got and names the request. A run of a client is judged against a run of the same
application over a single connection that is never lost.

* `Serves`: what comes in over a run is what the server answers, whenever and however often it
  does.
* `Undisturbed`: nothing but connections disturbs a run.
* `Reliable`: a run over a single connection, on which every answer comes at most once.
-/

namespace Courier

/-- What a server answers to the frame of a request, if anything. -/
abbrev Server := Octets → Option Octets

namespace Event

/-- Whether an event is the end of a connection or of an attempt. -/
def isLoss : Event → Bool
  | .refused | .closed _ | .broken => true
  | _ => false

end Event

namespace Occurrence

/-- The request that was settled, and its outcome. -/
@[simp] def outcome? : Occurrence → Option (ReqSeq × Outcome)
  | .settled seq outcome => some (seq, outcome)
  | _ => none

end Occurrence

namespace Client

/-- The requests that were settled and their outcomes, the latest first. -/
def outcomes (c : Client) : List (ReqSeq × Outcome) := c.history.filterMap Occurrence.outcome?

/-- The frame that the loop takes in, and the requests that were handed over before. -/
def hears (c : Client) (e : Event) : Option (Octets × List Request) :=
  match c.link, e with
  | .opened _, .received frame => some (frame, c.handOvers.map (·.2))
  | _, _ => none

/-- The events happen to a client of a server. -/
structure Serves (server : Server) (c : Client) (es : List Event) : Prop where
  /-- An answer is not a message, and carries the number of its request. -/
  addresses : ∀ r ∈ c.along receives es, ∀ b, server r.frame = some b → Addresses b r.seq
  /-- What comes in answers a request that was handed over before, or it addresses none. -/
  answers : ∀ p ∈ c.along hears es,
    (∃ r ∈ p.2, server r.frame = some p.1) ∨ ∀ n, ¬ Addresses p.1 n

/-- Nothing but connections disturbed a client: no rotation was noticed, the loop has not ended and
no reply was given up. -/
structure Calm (c : Client) : Prop where
  unrotated : c.session.rotated = false
  running : c.stopped = false
  uncancelled : c.cancelled = []

/-- Nothing but connections disturbs a run: no requests were cleared either. -/
structure Undisturbed (c : Client) (es : List Event) : Prop where
  calm : (c.run es).Calm
  uncleared : .clear ∉ c.along takes es

/-- The events happen to a client of a server over a single connection that is never lost. -/
structure Reliable (server : Server) (c : Client) (es : List Event) : Prop
    extends Serves server c es where
  lossless : ∀ e ∈ es, e.isLoss = false
  single : (c.run es).connections ≤ 1
  /-- No request is answered twice. -/
  answered_once : (c.along hears es).Pairwise fun p q => ∀ n, Addresses p.1 n → ¬ Addresses q.1 n

end Client

end Courier

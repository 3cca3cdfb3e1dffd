import Courier.Client.Observation
import Courier.Simulation
import Courier.WebSocket
import Courier.Proofs.Transition
import Courier.Proofs.Outbox
import Courier.Proofs.Run
import Courier.Proofs.Conservation
import Courier.Proofs.Inbound
import Courier.Proofs.Correlation
import Courier.Proofs.Link
import Courier.Proofs.Transmission
import Courier.Proofs.Replay
import Courier.Proofs.CleanClose
import Courier.Proofs.Answering
import Courier.Proofs.Order
import Courier.Proofs.Service
import Courier.Proofs.Application
import Courier.Proofs.Alone
import Courier.Proofs.Fate
import Courier.Proofs.Serve
import Courier.Proofs.Mirror
import Courier.Proofs.Recovery
import Courier.Msgpack.Shape
import Courier.Proofs.Delimited
import Courier.Proofs.Readers
import Courier.Proofs.Written
import Courier.Proofs.Headers
import Courier.Proofs.RoundTrip
import Courier.Proofs.Truncation
import Courier.Proofs.Rotation
import Courier.Proofs.Dispatch
import Courier.Proofs.Continuity
import Courier.Proofs.Remainder
import Courier.Proofs.Termination
import Courier.Json.Shape
import Courier.Proofs.Documents
import Courier.Proofs.Canonical
import Courier.Proofs.Reception
import Courier.Proofs.Asking
import Courier.Proofs.Provenance
import Courier.Proofs.Numbering
import Courier.Proofs.Pauses
import Courier.Proofs.Detection
import Courier.Proofs.Gate
import Courier.Proofs.Clearing
import Courier.Proofs.Cancellation
import Courier.Proofs.Cookies
import Courier.Proofs.Lines
import Courier.Proofs.Forms
import Courier.Proofs.Kinds
import Courier.Proofs.Arrangement
import Courier.Proofs.Coercion
import Courier.Proofs.Refinement

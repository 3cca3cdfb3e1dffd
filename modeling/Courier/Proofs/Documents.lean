import Courier.Proofs.Asking
import Courier.Proofs.Coercion
import Courier.Proofs.Reception

/-!
# Documents survive the wire

A document is sent as the value that stands for it, and a reply with that value is read as the
document. So a server that sends the content of a request back gives a request for a document
exactly what was sent, unless it says that it is an error.

* `coerce_toValue`: a value that stands for a document is read as that document.
* `document_survives`: **what a server echoes is what was sent.**
-/

namespace Courier

variable {version : UInt32} {b rest segment : Octets} {n : ReqSeq} {j : Json}

/-- What a request for a document comes to when the reply holds this one. -/
def Json.outcome (j : Json) : Outcome :=
  if (j.field? "error").isSome then .error (.errorReply j) else .ok (.json j)

/-- **A value that stands for a document is read as that document.** -/
theorem coerce_toValue (hc : j.isContainer = true) (hp : j.isProper = true) (n : ReqSeq) :
    Reply.coerce n .json j.toValue = j.outcome := by
  rw [coerce_of_isContainer (j.isContainer_toValue.trans hc), Json.ofValue?_toValue hp]
  rfl

/-- The octets of a document are read as its value. -/
theorem read_toValue (hl : j.levels ≤ Msgpack.maxLevels) (hf : j.fits = true) (rest : Octets) :
    Msgpack.read Msgpack.maxLevels (Msgpack.encode j.toValue ++ rest) = some (j.toValue, rest) := by
  rw [Msgpack.read_encode (j.levels_toValue_le.2 hl) (Json.fits_toValue hf),
    Value.normal_of_isTextual j.isTextual_toValue]

/-- A frame is a reply to a request, under a protocol version, and its content begins with these
octets. -/
def RepliesTo (version : UInt32) (b : Octets) (n : ReqSeq) (segment : Octets) : Prop :=
  ∃ header rest, Record.read? b = some (header, segment ++ rest) ∧ header.version = version ∧
    header.kind = 2 ∧ header.reqSeq = some n

/-- A reply with the value of a document settles the request that it names with it. -/
theorem RepliesTo.judge (h : RepliesTo version b n (Msgpack.encode j.toValue))
    (hl : j.levels ≤ Msgpack.maxLevels) (hf : j.fits = true) :
    Inbound.judge version b = .settle n fun type => Reply.coerce n type j.toValue := by
  obtain ⟨header, rest, hread, hv, hk, hs⟩ := h
  have hdecode := Inbound.decode?_content hread (read_toValue hl hf rest)
  exact judge_of_check hdecode rfl hv (Record.check_reply hk hs)

namespace Client

variable {c : Client} {uri : String} {response : ResponseType} {r : Request}

/-- The frame of a document is its header and the octets of its value. -/
theorem begin_document (h : (c.begin uri (.json j) response).2 = .ok (.complete r)) :
    ∃ address, Percent.decode uri = .ok address ∧
      r.frame =
        Msgpack.encode (Record.mk c.config.version 1 (some r.seq) (some address) none).toValue
          ++ Msgpack.encode j.toValue := by
  obtain ⟨-, -, f, hf⟩ := begin_complete h
  obtain ⟨address, haddress, hheader⟩ := hf.header
  have hnone : f.attachments = [] := List.map_eq_nil_iff.1 hf.attachments
  refine ⟨address, haddress, ?_⟩
  rw [hf.frame_eq, Frame.encode, hheader, hf.content, hnone, List.flatMap_nil, List.append_nil]
  rfl

/-- **What a server echoes is what was sent.** The octets that stand for a document in the frame of
a request, sent back in a reply, give a request for a document that very document: as its reply with
status 200, or as an error if it has the key `error`. -/
theorem document_survives (h : (c.begin uri (.json j) response).2 = .ok (.complete r))
    (hc : j.isContainer = true) (hp : j.isProper = true) (hl : j.levels ≤ 1023)
    (hf : j.fits = true) :
    ∃ address segment, Percent.decode uri = .ok address ∧
      r.frame =
        Msgpack.encode (Record.mk c.config.version 1 (some r.seq) (some address) none).toValue
          ++ segment ∧
      ∀ (d : Client) (connection : Nat) (b : Octets) (n : ReqSeq) (entry : InFlight),
        d.Reachable → d.link = .opened connection → (n, entry) ∈ d.outbox.awaiting →
        entry.request.response = .json → RepliesTo d.config.version b n segment →
        (d.step (.received b)).outcome? n =
            some (if (j.field? "error").isSome then .error (.errorReply j) else .ok (.json j)) ∧
          Reply.status = 200 := by
  obtain ⟨address, haddress, hframe⟩ := begin_document h
  refine ⟨address, _, haddress, hframe, ?_⟩
  intro d connection b n entry hd hlink hentry hresponse hreply
  have hjudge := hreply.judge hl hf
  have houtcome : Inbound.outcome? d.config.version b entry.request.response = some j.outcome := by
    simp only [Inbound.outcome?, hjudge, hresponse, coerce_toValue hc hp]
  rw [outcome?_received hlink (reachable_valid hd) hentry (judge_settle hjudge).1, houtcome]
  exact ⟨rfl, rfl⟩

/-- A document with the greatest and the least integer, a negative zero, and keys and texts beyond
ASCII comes back to the request that it was sent with. -/
theorem document_survives_echoed :
    let j : Json := .object [("a", .array [.int ⟨2 ^ 64 - 1, by decide, by decide⟩,
      .int ⟨-2 ^ 63, by decide, by decide⟩, .float 0x8000000000000000]), ("é", .text "ü")]
    let d := fresh.run [.send "/a" (.json j) .json, .finish 1, .command, .connected, .next, .taken,
      .next]
    ∃ r segment, (fresh.begin "/a" (.json j) .json).2 = .ok (.complete r) ∧
      (∃ front, r.frame = front ++ segment) ∧
      (d.step (.received (Msgpack.encode
        ((Header.reply 1).toRecord Config.standard.version).toValue ++ segment))).outcome? 1 =
        some (.ok (.json j)) := by
  intro j d
  obtain ⟨r, hr⟩ : ∃ r, (fresh.begin "/a" (.json j) .json).2 = .ok (.complete r) := ⟨_, rfl⟩
  obtain ⟨address, segment, -, hframe, hecho⟩ := document_survives hr rfl (by decide +kernel)
    (by decide +kernel) (by decide +kernel)
  have hl : d.link = .opened 0 := by decide +kernel
  have htable : d.outbox.awaiting.map (fun e => (e.1, e.2.request.response)) = [(1, .json)] := by
    decide +kernel
  obtain ⟨⟨n, entry⟩, hentry, hpair⟩ := List.mem_map.1
    (htable ▸ List.mem_singleton_self (1, ResponseType.json))
  obtain ⟨rfl, hresponse⟩ := Prod.mk.inj hpair
  have hreply : RepliesTo d.config.version (Msgpack.encode
      ((Header.reply 1).toRecord Config.standard.version).toValue ++ segment) 1 segment :=
    ⟨(Header.reply 1).toRecord Config.standard.version, [],
      by rw [Record.read?_encode (by decide +kernel), List.append_nil], rfl, rfl, rfl⟩
  exact ⟨r, segment, hr, ⟨_, hframe⟩,
    (hecho d 0 _ 1 entry (reachable_fresh _) hl hentry hresponse hreply).1⟩

end Client

end Courier

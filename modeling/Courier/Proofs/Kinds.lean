import Courier.Error
import Courier.Header.Kinds
import Courier.Proofs.RoundTrip

/-!
# Headers survive the wire

A header is written as a record, and a record is read as a header if it stands for one. Nothing is
lost on the way there and back. A record that stands for no header still names its request.

* `Record.toHeader_eq_error`: what keeps a record from being a header is reported to the request
  that it names.
* `headers_survive`: **headers survive the wire**, and a record is made into a header and back
  without losing anything that its kind uses.
-/

namespace Courier

namespace Record

variable {r : Record} {h : Header}

theorem toHeader_eq_ok_iff : r.toHeader = .ok h ↔ r.check = .ok h := by
  rw [toHeader]
  cases r.check with
  | ok => exact ⟨fun heq => by cases heq; rfl, fun heq => by cases heq; rfl⟩
  | error => exact ⟨nofun, nofun⟩

/-- What keeps a record from being a header is reported to the request that it names. -/
theorem toHeader_eq_error {e : Error} (he : r.toHeader = .error e) :
    ∃ fault, e = .protocol fault r.reqSeq := by
  rw [toHeader] at he
  cases hc : r.check with
  | ok h =>
    rw [hc] at he
    cases he
  | error fault =>
    rw [hc] at he
    cases he
    exact ⟨.header fault r, rfl⟩

end Record

/-- **Headers survive the wire.** A header that was written into any frame is read back from it,
under the version that it was written under. A record stands for a header exactly if its kind is
known and has the fields that it needs; made into a record again, the header has lost exactly the
other fields, and then nothing changes any more. If the record stands for none, the error is a
protocol error about the request that the record names. -/
theorem headers_survive :
    (∀ (h : Header) (version : UInt32) (content : Value) (attachments : List Attachment),
      Frame.Writable ⟨h.toRecord version, content, attachments⟩ →
      ∃ inbound,
        Inbound.decode? (Frame.encode ⟨h.toRecord version, content, attachments⟩) = some inbound ∧
        inbound.header.version = version ∧ inbound.header.toHeader = .ok h) ∧
    ∀ r : Record,
      ((∃ h, r.toHeader = .ok h) ↔
        ∃ kind : Kind, kind.code = r.kind ∧ ∀ field ∈ kind.fields, (r.value? field).isSome) ∧
      (∀ h, r.toHeader = .ok h →
        h.kind.code = r.kind ∧ h.toRecord r.version = r.only h.kind.fields ∧
        (h.toRecord r.version).toHeader = .ok h ∧
        h.toRecord (h.toRecord r.version).version = h.toRecord r.version) ∧
      ∀ e, r.toHeader = .error e → ∃ fault, e = .protocol fault r.reqSeq := by
  have hback : ∀ (version : UInt32) (h : Header), (h.toRecord version).toHeader = .ok h := by
    intro version h
    exact Record.toHeader_eq_ok_iff.2 (Record.check_toRecord version h)
  refine ⟨?_, fun r => ⟨?_, ?_, fun e => Record.toHeader_eq_error⟩⟩
  · intro h version content attachments hw
    exact ⟨_, Inbound.decode?_content (hw.read_header _) (hw.read_content _), rfl, hback version h⟩
  · simp only [Record.toHeader_eq_ok_iff]
    exact Record.exists_check_iff
  · intro h hh
    have heq := Record.check_eq_ok_iff.1 (Record.toHeader_eq_ok_iff.1 hh)
    exact ⟨congrArg Record.kind heq, heq, hback r.version h, rfl⟩

/-- A request with a file goes through a frame. A reply with an address and a method loses both, and
a request that has everything but an address is an error about its number. -/
theorem headers_survive_crowded :
    let sent : Header := .request 0xFFFFFFFFFFFFFFFF "/é"
    let frame : Frame := ⟨sent.toRecord 0xFFFFFFFF, .array [.text [0xFF], .extension 5 [1, 2]],
      [⟨"a", [1]⟩]⟩
    let crowded : Record := ⟨7, 2, some 3, some "/a", some "m"⟩
    let lacking : Record := ⟨1, 1, some 9, none, some "m"⟩
    (frame.Writable ∧ ∃ inbound, Inbound.decode? frame.encode = some inbound ∧
        inbound.header.version = 0xFFFFFFFF ∧ inbound.header.toHeader = .ok sent) ∧
      (crowded.toHeader = .ok (.reply 3) ∧
        (Header.reply 3).toRecord 7 = ⟨7, 2, some 3, none, none⟩) ∧
      ∃ e, lacking.toHeader = .error e ∧ ∃ fault, e = .protocol fault (some 9) := by
  intro sent frame crowded lacking
  have hw : frame.Writable := ⟨by decide +kernel, by decide +kernel⟩
  have hcrowded : crowded.toHeader = .ok (.reply 3) := rfl
  obtain ⟨e, he⟩ : ∃ e, lacking.toHeader = .error e := ⟨_, rfl⟩
  refine ⟨⟨hw, headers_survive.1 sent _ _ _ hw⟩, ⟨hcrowded, ?_⟩, e, he, ?_⟩
  · exact ((headers_survive.2 crowded).2.1 _ hcrowded).2.1
  · exact (headers_survive.2 lacking).2.2 e he

end Courier

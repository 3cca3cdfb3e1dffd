import Courier.Proofs.RoundTrip

/-!
# Truncation is noticed

An upload that breaks off leaves the beginning of a frame. Since header, content and attachments
each end where they end, the beginning is unreadable from the segment on in which it breaks off,
and only between attachments can it pass for a frame.

* `Frame.readAttachments_cut`: attachments that break off are unreadable.
* `Frame.truncation_noticed`: **what the two readers say of a frame that breaks off.**
-/

namespace Courier

open Msgpack (maxLevels delimits_read)

namespace Frame

variable {f : Frame} {as : List Attachment} {p : Octets}

/-! ## Where a frame breaks off -/

/-- The octets of the header. -/
def headerSize (f : Frame) : Nat :=
  (Msgpack.encode f.header.toValue).length

/-- The octets of the content. -/
def contentSize (f : Frame) : Nat :=
  (Msgpack.encode f.content).length

/-- The frame with its first `k` attachments only. -/
def keep (f : Frame) (k : Nat) : Frame :=
  { f with attachments := f.attachments.take k }

/-- Where the first `k` attachments end. -/
def boundary (f : Frame) (k : Nat) : Nat :=
  (f.keep k).encode.length

theorem encode_keep (f : Frame) (k : Nat) :
    (f.keep k).encode = Msgpack.encode f.header.toValue ++ (Msgpack.encode f.content ++
      (f.attachments.take k).flatMap fun a => Msgpack.encode a.toValue) :=
  rfl

theorem keep_of_length_le {k : Nat} (hk : f.attachments.length ≤ k) : f.keep k = f := by
  rw [keep, List.take_of_length_le hk]

/-- A frame begins with itself without its last attachments. -/
theorem encode_keep_prefix (f : Frame) (k : Nat) : (f.keep k).encode <+: f.encode := by
  rw [encode_keep, encode]
  refine (List.prefix_append_right_inj _).2 ((List.prefix_append_right_inj _).2 ?_)
  exact ⟨(f.attachments.drop k).flatMap fun a => Msgpack.encode a.toValue,
    by rw [← List.flatMap_append, List.take_append_drop]⟩

/-- A beginning of a frame is as long as the first `k` attachments reach only if it is what they
reach. -/
theorem eq_encode_keep (hp : p <+: f.encode) {k : Nat} (hlength : p.length = f.boundary k) :
    p = (f.keep k).encode := by
  have hprefix : p <+: (f.keep k).encode :=
    List.prefix_of_prefix_length_le hp (f.encode_keep_prefix k) (Nat.le_of_eq hlength)
  exact hprefix.eq_of_length hlength

/-! ## Attachments that break off -/

/-- Attachments that break off are unreadable, unless they break off between two of them. -/
theorem readAttachments_cut (hf : ∀ a ∈ as, a.toValue.fits = true) (done : List Attachment)
    (fuel : Nat) (hp : p <+: as.flatMap fun a => Msgpack.encode a.toValue) :
    (∃ k, p = (as.take k).flatMap fun a => Msgpack.encode a.toValue) ∨
      readAttachments done fuel p = .error .unreadable := by
  induction as generalizing done fuel p with
  | nil => exact .inl ⟨0, List.prefix_nil.1 hp⟩
  | cons a as ih =>
    rw [List.forall_mem_cons] at hf
    rw [List.flatMap_cons] at hp
    cases p with
    | nil => exact .inl ⟨0, rfl⟩
    | cons octet p =>
      cases fuel with
      | zero => exact .inr rfl
      | succ fuel =>
        -- Either the first attachment is cut, or it is whole and the reader goes on behind it.
        rcases (delimits_read maxLevels).cut (Attachment.read_encode hf.1) hp with
          ⟨-, hread⟩ | ⟨q, heq, hq, -⟩
        · refine .inr ?_
          simp only [readAttachments, hread]
        · rw [heq, readAttachments_step hf.1]
          rcases ih hf.2 (a :: done) fuel hq with ⟨k, hk⟩ | herror
          · exact .inl ⟨k + 1, by rw [List.take_succ_cons, List.flatMap_cons, hk]⟩
          · exact .inr herror

/-! ## Frames that break off -/

/-- A frame that ends on the boundary of an attachment is read as if it had no more of them. -/
theorem decode_keep (h : f.Writable) (ht : f.content.isTextual = true) (k : Nat) :
    decode (f.keep k).encode = .ok (f.keep k) := by
  have hf : ∀ a ∈ f.attachments.take k, a.toValue.fits = true :=
    fun a ha => h.attachments a (List.mem_of_mem_take ha)
  have hread := readAttachments_encode hf [] (length_le_encode hf)
  rw [encode_keep, decode_content (h.read_header _) (h.read_content _), hread,
    Value.normal_of_isTextual ht]
  rfl

/-- What the two readers say of a beginning of a frame that is not the whole of it. -/
structure Truncation (f : Frame) (p : Octets) : Prop where
  /-- Without its header there is nothing. -/
  header : p.length < f.headerSize →
    (∃ fault, decode p = .error fault) ∧ Inbound.decode? p = none
  /-- Without its content there is still the header, which tells whose frame it is. -/
  content : f.headerSize ≤ p.length → p.length < f.headerSize + f.contentSize →
    (∃ fault, decode p = .error fault) ∧ Inbound.decode? p = some ⟨f.header, none, 0⟩
  /-- The reader of header and content has both, and counts the octets after them. -/
  inbound : f.headerSize + f.contentSize ≤ p.length →
    Inbound.decode? p =
      some ⟨f.header, some f.content, p.length - (f.headerSize + f.contentSize)⟩
  /-- The reader of whole frames has a frame exactly on the boundary of an attachment, and it is
  the frame without the attachments that are cut off. -/
  attachments : f.headerSize + f.contentSize ≤ p.length → ∀ g, decode p = .ok g ↔
    ∃ k, k < f.attachments.length ∧ p.length = f.boundary k ∧ g = f.keep k

/-- **Truncation is noticed.** Whatever is cut off a frame whose texts are UTF-8, the readers say
of the rest what it holds. -/
theorem truncation_noticed (h : f.Writable) (ht : f.content.isTextual = true)
    (hp : p <+: f.encode) (hne : p ≠ f.encode) : Truncation f p := by
  rcases Record.delimits_record.cut h.read_header hp with
    ⟨hlt, hnone⟩ | ⟨q, hp_eq, hq, hheader⟩
  · -- It breaks off in the header.
    have hshort : p.length < f.headerSize := hlt
    exact ⟨fun _ => ⟨⟨_, decode_nothing hnone⟩, Inbound.decode?_nothing hnone⟩,
      by omega, by omega, by omega⟩
  have hlong : p.length = f.headerSize + q.length := by
    rw [hp_eq, List.length_append, headerSize]
  rcases (delimits_read maxLevels).cut h.read_content hq with
    ⟨hlt, hnone⟩ | ⟨tail, rfl, htail, hcontent⟩
  · -- It breaks off in the content.
    have hshort : q.length < f.contentSize := hlt
    exact ⟨by omega,
      fun _ _ => ⟨⟨_, decode_header hheader hnone⟩, Inbound.decode?_header hheader hnone⟩,
      by omega, by omega⟩
  -- It breaks off after the content, in an attachment or between two.
  rw [Value.normal_of_isTextual ht] at hcontent
  rw [List.length_append, ← contentSize] at hlong
  refine ⟨by omega, by omega, fun _ => ?_, fun _ g => ⟨fun hg => ?_, ?_⟩⟩
  · have htrailing : tail.length = p.length - (f.headerSize + f.contentSize) := by omega
    rw [Inbound.decode?_content hheader hcontent, htrailing]
  · rcases readAttachments_cut h.attachments [] tail.length htail with ⟨k, rfl⟩ | herror
    · rw [← encode_keep] at hp_eq
      have hk : k < f.attachments.length := by
        refine Nat.lt_of_not_le fun hall => hne ?_
        rw [hp_eq, keep_of_length_le hall]
      rw [hp_eq, decode_keep h ht] at hg
      cases hg
      exact ⟨k, hk, congrArg List.length hp_eq, rfl⟩
    · rw [decode_content hheader hcontent, herror] at hg
      cases hg
  · rintro ⟨k, -, hlength, rfl⟩
    rw [eq_encode_keep hp hlength, decode_keep h ht]

/-- A frame with two attachments, the second of them empty. -/
def parcel : Frame where
  header := ⟨1, 2, some 7, some "/é", none⟩
  content := .array [.ofString "é", .float64 0x7FF8000000000001]
  attachments := [⟨"a", [1, 2]⟩, ⟨"b", []⟩]

theorem truncation_noticed_parcel :
    parcel.Writable ∧ parcel.content.isTextual = true ∧
      (parcel.headerSize, parcel.contentSize, parcel.boundary 1, parcel.encode.length) =
        (32, 13, 66, 85) ∧
      ∀ n, n < parcel.encode.length → Truncation parcel (parcel.encode.take n) := by
  have hwritable : parcel.Writable := ⟨by decide +kernel, by decide +kernel⟩
  have htextual : parcel.content.isTextual = true := by decide +kernel
  refine ⟨hwritable, htextual, by decide +kernel, fun n hn => ?_⟩
  refine truncation_noticed hwritable htextual (List.take_prefix n _) fun heq => ?_
  have hlength := congrArg List.length heq
  rw [List.length_take] at hlength
  omega

end Frame

end Courier

import Courier.Frame
import Courier.Proofs.Delimited

/-!
# The two readers of frames

One reader takes a whole frame, the other header and content only. How far octets can be read
decides what each of them says, so that they never disagree.

* `Legible`: how far octets can be read.
* `readers_agree`: **the reader of header and content says of any octets what the reader of whole
  frames says**, and it is not disturbed by anything that follows the content.
-/

namespace Courier

open Msgpack (maxLevels)

/-- How far octets can be read as a frame: not at all, up to the content, or up to the
attachments. -/
inductive Legible (b : Octets) : Prop where
  | nothing (h : Record.read? b = none)
  | header (header : Record) (rest : Octets) (h : Record.read? b = some (header, rest))
      (hc : Msgpack.read maxLevels rest = none)
  | content (header : Record) (rest : Octets) (content : Value) (tail : Octets)
      (h : Record.read? b = some (header, rest))
      (hc : Msgpack.read maxLevels rest = some (content, tail))

theorem legible (b : Octets) : Legible b := by
  cases h : Record.read? b with
  | none => exact .nothing h
  | some result =>
    obtain ⟨header, rest⟩ := result
    cases hc : Msgpack.read maxLevels rest with
    | none => exact .header header rest h hc
    | some result => exact .content header rest result.1 result.2 h hc

variable {b rest tail : Octets} {header : Record} {content : Value}

/-! ## What the readers say -/

theorem Inbound.decode?_nothing (h : Record.read? b = none) : Inbound.decode? b = none := by
  rw [Inbound.decode?, h, Option.map_none]

theorem Inbound.decode?_header (h : Record.read? b = some (header, rest))
    (hc : Msgpack.read maxLevels rest = none) :
    Inbound.decode? b = some ⟨header, none, 0⟩ := by
  simp only [Inbound.decode?, h, Option.map_some, hc]

theorem Inbound.decode?_content (h : Record.read? b = some (header, rest))
    (hc : Msgpack.read maxLevels rest = some (content, tail)) :
    Inbound.decode? b = some ⟨header, some content, tail.length⟩ := by
  simp only [Inbound.decode?, h, Option.map_some, hc]

theorem Frame.decode_nothing (h : Record.read? b = none) :
    Frame.decode b = .error .unreadable := by
  simp only [Frame.decode, h]

theorem Frame.decode_header (h : Record.read? b = some (header, rest))
    (hc : Msgpack.read maxLevels rest = none) : Frame.decode b = .error .unreadable := by
  simp only [Frame.decode, h, hc]

/-- The rest of a frame with a content is its attachments. -/
theorem Frame.decode_content (h : Record.read? b = some (header, rest))
    (hc : Msgpack.read maxLevels rest = some (content, tail)) :
    Frame.decode b =
      (Frame.readAttachments [] tail.length tail).map fun as => ⟨header, content, as⟩ := by
  simp only [Frame.decode, h, hc]
  cases Frame.readAttachments [] tail.length tail <;> rfl

/-! ## Attachments -/

@[simp] theorem Frame.readAttachments_nil (done : List Attachment) (fuel : Nat) :
    Frame.readAttachments done fuel [] = .ok done.reverse := by
  cases fuel <;> rfl

/-- Where anything is left, there is an attachment. -/
theorem Frame.length_readAttachments {done as : List Attachment} {fuel : Nat}
    (h : Frame.readAttachments done fuel b = .ok as) :
    done.length ≤ as.length ∧ (b ≠ [] → done.length < as.length) := by
  induction fuel generalizing done b with
  | zero =>
    cases b with
    | nil =>
      cases h
      simp
    | cons octet b => cases h
  | succ fuel ih =>
    cases b with
    | nil =>
      cases h
      simp
    | cons octet b =>
      simp only [Frame.readAttachments] at h
      split at h
      · cases h
      · split at h
        · have hlength := (ih h).1
          rw [List.length_cons] at hlength
          exact ⟨Nat.le_of_succ_le hlength, fun _ => hlength⟩
        · cases h

theorem Frame.readAttachments_eq_nil_iff {as : List Attachment} {fuel : Nat}
    (h : Frame.readAttachments [] fuel b = .ok as) : b = [] ↔ as = [] := by
  constructor
  · rintro rfl
    rw [Frame.readAttachments_nil] at h
    cases h
    rfl
  · rintro rfl
    have hlength := (Frame.length_readAttachments h).2
    by_cases hb : b = []
    · exact hb
    · exact absurd (hlength hb) (Nat.lt_irrefl 0)

/-! ## Agreement -/

/-- What the two readers say of the same octets. -/
structure ReadersAgree (b : Octets) : Prop where
  /-- A header that the one cannot read the other cannot read either. -/
  nothing : Inbound.decode? b = none → ∃ fault, Frame.decode b = .error fault
  /-- Nor a content. -/
  header : ∀ header trailing, Inbound.decode? b = some ⟨header, none, trailing⟩ →
    ∃ fault, Frame.decode b = .error fault
  /-- Of a frame the other reads header and content, up to the end of `front`, and it counts
  what is left. -/
  frame : ∀ f, Frame.decode b = .ok f → ∃ front rest, b = front ++ rest ∧
    Frame.decode front = .ok ⟨f.header, f.content, []⟩ ∧
    Inbound.decode? b = some ⟨f.header, some f.content, rest.length⟩ ∧
    (rest.length = 0 ↔ f.attachments = [])
  /-- When nothing is left, there is a frame without attachments. -/
  complete : ∀ header content, Inbound.decode? b = some ⟨header, some content, 0⟩ →
    Frame.decode b = .ok ⟨header, content, []⟩
  /-- Whatever follows is counted and changes nothing else. -/
  followed : ∀ header content n, Inbound.decode? b = some ⟨header, some content, n⟩ →
    ∀ s, Inbound.decode? (b ++ s) = some ⟨header, some content, n + s.length⟩

/-- **The two readers agree** on any octets. -/
theorem readers_agree (b : Octets) : ReadersAgree b := by
  rcases legible b with h | ⟨header, rest, h, hc⟩ | ⟨header, rest, content, tail, h, hc⟩
  · have hin := Inbound.decode?_nothing h
    have hout := Frame.decode_nothing h
    refine ⟨fun _ => ⟨_, hout⟩, ?_, ?_, ?_, ?_⟩ <;> simp [hin, hout]
  · have hin := Inbound.decode?_header h hc
    have hout := Frame.decode_header h hc
    refine ⟨by simp [hin], fun _ _ _ => ⟨_, hout⟩, ?_, ?_, ?_⟩ <;> simp [hin, hout]
  · have hin := Inbound.decode?_content h hc
    have hout := Frame.decode_content h hc
    refine ⟨by simp [hin], by simp [hin], ?_, ?_, ?_⟩
    · intro f hf
      obtain ⟨as, has, rfl⟩ : ∃ as, Frame.readAttachments [] tail.length tail = .ok as ∧
          Frame.mk header content as = f := by
        rw [hout] at hf
        cases has : Frame.readAttachments [] tail.length tail with
        | error fault =>
          rw [has] at hf
          cases hf
        | ok as =>
          rw [has] at hf
          exact ⟨as, rfl, Except.ok.inj hf⟩
      -- Header and content end where they end, also when nothing follows.
      obtain ⟨front, rfl, hfront⟩ := Record.delimits_record.taken h
      obtain ⟨middle, rfl, hmiddle⟩ := (Msgpack.delimits_read _).taken hc
      refine ⟨front ++ middle, tail, (List.append_assoc _ _ _).symm, ?_, hin, ?_⟩
      · have hend := hmiddle []
        rw [List.append_nil] at hend
        rw [Frame.decode_content (hfront middle) hend, Frame.readAttachments_nil]
        rfl
      · rw [List.length_eq_zero_iff]
        exact Frame.readAttachments_eq_nil_iff has
    · intro header' content' heq
      rw [hin, Option.some.injEq, Inbound.mk.injEq, Option.some.injEq] at heq
      obtain ⟨rfl, rfl, hlength⟩ := heq
      rw [List.length_eq_zero_iff] at hlength
      rw [hout, hlength, Frame.readAttachments_nil]
      rfl
    · intro header' content' n heq s
      rw [hin] at heq
      cases heq
      have h' := Record.delimits_record.append h s
      have hc' := (Msgpack.delimits_read _).append hc s
      rw [Inbound.decode?_content h' hc', List.length_append]

end Courier

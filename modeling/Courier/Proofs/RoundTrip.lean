import Courier.Proofs.Headers
import Courier.Proofs.Readers

/-!
# Frames survive the wire

A frame is its header, its content and its attachments, each written as a value of its own. Since
each of them ends where it ends, they are read back one after the other.

* `Frame.Writable`: what the format can hold, `Frame.segments` being what it holds.
* `Frame.decode_encode`: **a frame that was written is read back**, and only texts of the content
  that are not UTF-8 come back as something else.
-/

namespace Courier

open Msgpack (maxLevels)

variable {a : Attachment} {as : List Attachment} {f : Frame} {rest : Octets}

/-! ## Attachments -/

namespace Attachment

@[simp] theorem normal_toValue (a : Attachment) : a.toValue.normal = a.toValue := by
  simp [toValue, Value.normal]

theorem levels_toValue (a : Attachment) : a.toValue.levels ≤ maxLevels := by
  have hlevels : a.toValue.levels ≤ 0 + 1 := by
    rw [toValue, Value.levels_map_le]
    simp [Value.ofString, Value.levels]
  exact Nat.le_trans hlevels (by decide)

/-- The map of an attachment stands for it. -/
@[simp] theorem ofValue_toValue (a : Attachment) : ofValue a.toValue = .ok a := by
  simp [toValue, ofValue, parts, Value.string?, Value.ofString]

theorem read_encode (hf : a.toValue.fits = true) (rest : Octets) :
    Msgpack.read maxLevels (Msgpack.encode a.toValue ++ rest) = some (a.toValue, rest) := by
  rw [Msgpack.read_encode a.levels_toValue hf, normal_toValue]

theorem encode_ne_nil (hf : a.toValue.fits = true) : Msgpack.encode a.toValue ≠ [] := by
  intro hnil
  have hread := read_encode hf []
  rw [hnil, List.append_nil, Msgpack.read_nil] at hread
  cases hread

end Attachment

namespace Frame

/-- The first attachment is taken off, and the others are read. -/
theorem readAttachments_step (hf : a.toValue.fits = true) (done : List Attachment) (fuel : Nat)
    (rest : Octets) :
    readAttachments done (fuel + 1) (Msgpack.encode a.toValue ++ rest) =
      readAttachments (a :: done) fuel rest := by
  have hread := Attachment.read_encode hf rest
  cases hb : Msgpack.encode a.toValue ++ rest with
  | nil => exact absurd (List.append_eq_nil_iff.1 hb).1 (Attachment.encode_ne_nil hf)
  | cons octet b =>
    rw [hb] at hread
    simp only [readAttachments, hread, Attachment.ofValue_toValue]

/-- Attachments that were written are read back in their order. -/
theorem readAttachments_encode (hf : ∀ a ∈ as, a.toValue.fits = true) (done : List Attachment)
    {fuel : Nat} (hfuel : as.length ≤ fuel) :
    readAttachments done fuel (as.flatMap fun a => Msgpack.encode a.toValue) =
      .ok (done.reverse ++ as) := by
  induction as generalizing done fuel with
  | nil => simp
  | cons a as ih =>
    rw [List.forall_mem_cons] at hf
    obtain ⟨fuel, rfl⟩ := Nat.exists_eq_add_one.2 (Nat.lt_of_lt_of_le (Nat.zero_lt_succ _) hfuel)
    rw [List.flatMap_cons, readAttachments_step hf.1,
      ih hf.2 (a :: done) (Nat.le_of_succ_le_succ hfuel), List.reverse_cons, List.append_assoc,
      List.singleton_append]

/-- Each attachment takes at least an octet. -/
theorem length_le_encode (hf : ∀ a ∈ as, a.toValue.fits = true) :
    as.length ≤ (as.flatMap fun a => Msgpack.encode a.toValue).length := by
  induction as with
  | nil => exact Nat.le_refl 0
  | cons a as ih =>
    rw [List.forall_mem_cons] at hf
    have hpos := List.length_pos_iff.2 (Attachment.encode_ne_nil hf.1)
    have hrest := ih hf.2
    rw [List.flatMap_cons, List.length_append, List.length_cons]
    omega

/-! ## Frames -/

/-- The values that a frame is written as. -/
def segments (f : Frame) : List Value :=
  f.header.toValue :: f.content :: f.attachments.map Attachment.toValue

/-- What the format can hold: four octets hold every length in the frame, and its content is
nested no deeper than the reader allows. -/
structure Writable (f : Frame) : Prop where
  fits : ∀ v ∈ f.segments, v.fits = true
  levels : f.content.levels ≤ maxLevels

namespace Writable

theorem header (h : f.Writable) : f.header.toValue.fits = true :=
  h.fits _ List.mem_cons_self

theorem content (h : f.Writable) : f.content.fits = true :=
  h.fits _ (List.mem_cons_of_mem _ List.mem_cons_self)

theorem attachments (h : f.Writable) : ∀ a ∈ f.attachments, a.toValue.fits = true := by
  intro a ha
  exact h.fits _ (List.mem_cons_of_mem _ (List.mem_cons_of_mem _ (List.mem_map_of_mem ha)))

/-- The header of a written frame is read back. -/
theorem read_header (h : f.Writable) (rest : Octets) :
    Record.read? (Msgpack.encode f.header.toValue ++ rest) = some (f.header, rest) :=
  Record.read?_encode h.header rest

/-- The content of a written frame is read back. -/
theorem read_content (h : f.Writable) (rest : Octets) :
    Msgpack.read maxLevels (Msgpack.encode f.content ++ rest) = some (f.content.normal, rest) :=
  Msgpack.read_encode h.levels h.content rest

end Writable

/-- **A frame that was written is read back.** Only texts of its content that are not UTF-8 come
back as binaries of the same octets. -/
theorem decode_encode (h : f.Writable) :
    decode f.encode = .ok { f with content := f.content.normal } := by
  have hread := readAttachments_encode h.attachments [] (length_le_encode h.attachments)
  rw [encode, decode_content (h.read_header _) (h.read_content _), hread]
  rfl

/-- A frame with something of everything, the content having texts that are not UTF-8, a number
that is none and a key that comes twice. -/
def motley : Frame where
  header := ⟨0xFFFFFFFF, 9, some 0xFFFFFFFFFFFFFFFF, some "/é", some "m"⟩
  content := .map [
    (.text [0xFF], .array [.nil, .float32 0x7FC00001, .extension (-1) (List.replicate 16 7)]),
    (.ofString "k", .text [0xC3, 0xA9]), (.ofString "k", .text [0xC3]),
    (.binary [], .int ⟨-33, by decide, by decide⟩)]
  attachments := [⟨"a", [1, 2]⟩, ⟨"a", []⟩]

theorem decode_encode_motley :
    motley.Writable ∧ decode motley.encode = .ok { motley with content := .map [
      (.binary [0xFF], .array [.nil, .float32 0x7FC00001, .extension (-1) (List.replicate 16 7)]),
      (.ofString "k", .text [0xC3, 0xA9]), (.ofString "k", .binary [0xC3]),
      (.binary [], .int ⟨-33, by decide, by decide⟩)] } := by
  have hwritable : motley.Writable := ⟨by decide +kernel, by decide +kernel⟩
  have hbroken : Utf8.isText [0xFF] = false ∧ Utf8.isText [0xC3] = false := by decide +kernel
  have hwhole : Utf8.isText [0xC3, 0xA9] = true := by decide +kernel
  refine ⟨hwritable, ?_⟩
  rw [decode_encode hwritable]
  simp [motley, Value.normal, Value.normalItems, hbroken, hwhole]

end Frame

end Courier

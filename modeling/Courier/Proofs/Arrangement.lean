import Courier.Proofs.Canonical

/-!
# The arrangement of a header does not matter

A server may write the fields of a header in another order than the client, an absent one as nil, and
entries of its own among them, whose values may be anything that the format has. Neither reader of
frames notices: the header is read as the same record, and what follows it in the same way.

* `arrangement_irrelevant`: **a header is read alike however its map is arranged and written.**
-/

namespace Courier

open Msgpack (encode maxLevels Spells)

variable {r : Record} {fields : List Record.Field} {others : List (Octets × Value)}
  {entries : List (Value × Value)} {b : Octets}

/-- What a record has can be written if a map that stands for the record can. -/
theorem Record.Arranged.fits (h : r.Arranged fields others entries)
    (hf : (Value.map entries).fits = true) : r.toValue.fits = true := by
  have hfits : ∀ (field : Record.Field) (v : Value), r.value? field = some v → v.fits = true := by
    intro field v hv
    have hfield : field ∈ fields := h.complete field (Option.isSome_iff_exists.2 ⟨v, hv⟩)
    have hentry : r.entry field ∈ entries :=
      h.perm.mem_iff.2 (List.mem_append_left _ (List.mem_map_of_mem hfield))
    have hvalue := ((Value.fits_map.1 hf).2 _ hentry).2
    rw [Record.entry, hv, Option.getD_some] at hvalue
    exact hvalue
  refine Record.fits_toValue ⟨fun s hs => hfits .uri _ ?_, fun s hs => hfits .method _ ?_⟩
  · exact Option.map_eq_some_iff.2 ⟨s, hs, rfl⟩
  · exact Option.map_eq_some_iff.2 ⟨s, hs, rfl⟩

/-- Readers of frames that find the same header before the same octets go on alike. -/
theorem decode_of_read? {b' rest : Octets} (h : Record.read? b = some (r, rest))
    (h' : Record.read? b' = some (r, rest)) :
    Frame.decode b = Frame.decode b' ∧ Inbound.decode? b = Inbound.decode? b' := by
  simp only [Frame.decode, Inbound.decode?, h, h', Option.map_some, and_self]

/-- **A header is read alike however its map is arranged and written.** The entries may stand in any
order, absent fields may be there as nil, and others may stand between them under any names that no
field has, with values as deep as there is room for: the map is one level of 1023, and an extension
counts as one. Whatever form the map is written in, each reader finds the record and then goes on as
it does after the record as the client writes it. -/
theorem arrangement_irrelevant (h : r.Arranged fields others entries)
    (hb : Spells maxLevels b (.map entries)) (rest : Octets) :
    Record.read? (b ++ rest) = some (r, rest) ∧
      Frame.decode (b ++ rest) = Frame.decode (encode r.toValue ++ rest) ∧
      Inbound.decode? (b ++ rest) = Inbound.decode? (encode r.toValue ++ rest) ∧
      (∀ f, Frame.decode (b ++ rest) = .ok f → f.header = r) ∧
      ∃ content trailing, Inbound.decode? (b ++ rest) = some ⟨r, content, trailing⟩ := by
  have hread := Record.read?_of_spells h hb rest
  obtain ⟨hframe, hinbound⟩ := decode_of_read? hread (Record.read?_encode (h.fits hb.fits) rest)
  refine ⟨hread, hframe, hinbound, ?_⟩
  -- The first reader wants a content, the second does without one.
  cases hc : Msgpack.read Msgpack.maxLevels rest with
  | none =>
    rw [Frame.decode_header hread hc, Inbound.decode?_header hread hc]
    exact ⟨nofun, none, 0, rfl⟩
  | some result =>
    obtain ⟨content, tail⟩ := result
    rw [Frame.decode_content hread hc, Inbound.decode?_content hread hc]
    refine ⟨fun f hf => ?_, some content, tail.length, rfl⟩
    cases has : Frame.readAttachments [] tail.length tail with
    | error fault =>
      rw [has] at hf
      cases hf
    | ok as =>
      rw [has] at hf
      cases hf
      rfl

/-- The entries of a reply in another form than the client's: each with the octets that its key and
its value are written as. Two have names of the server's own, one is nil, and lengths and numbers
have wider heads than they need. -/
def scattered : List ((Octets × Value) × (Octets × Value)) :=
  [(([0xA1, 0x78], .text [0x78]), ([0xDC, 0, 1, 0xD4, 5, 7], .array [.extension 5 [7]])),
    (([0xD9, 4, 0x6B, 0x69, 0x6E, 0x64], .text [0x6B, 0x69, 0x6E, 0x64]),
      ([0xCC, 2], .int (.ofUInt64 2))),
    (([0xA3, 0x75, 0x72, 0x69], .text [0x75, 0x72, 0x69]), ([0xC0], .nil)),
    (([0xA6, 0x72, 0x65, 0x71, 0x53, 0x65, 0x71], .text [0x72, 0x65, 0x71, 0x53, 0x65, 0x71]),
      ([0xD1, 0, 5], .int (.ofUInt64 5))),
    (([0xA1, 0x78], .text [0x78]), ([0xC4, 2, 0xFF, 0xFF], .binary [0xFF, 0xFF])),
    (([0xA7, 0x76, 0x65, 0x72, 0x73, 0x69, 0x6F, 0x6E],
      .text [0x76, 0x65, 0x72, 0x73, 0x69, 0x6F, 0x6E]), ([1], .int (.ofUInt64 1)))]

theorem arrangement_irrelevant_scattered :
    let r : Record := ⟨1, 2, some 5, none, none⟩
    let entries := scattered.map fun entry => (entry.1.2, entry.2.2)
    let b := [0xDE, 0, 6] ++ scattered.flatMap fun entry => entry.1.1 ++ entry.2.1
    (∃ fields others, r.Arranged fields others entries) ∧ Spells maxLevels b (.map entries) ∧
      Inbound.decode? (b ++ [0xC2]) = Inbound.decode? (encode r.toValue ++ [0xC2]) ∧
      ∃ content trailing, Inbound.decode? (b ++ [0xC2]) = some ⟨r, content, trailing⟩ := by
  intro r entries b
  have harranged : r.Arranged [.kind, .uri, .reqSeq, .version]
      [([0x78], .array [.extension 5 [7]]), ([0x78], .binary [0xFF, 0xFF])] entries := by
    refine ⟨by decide, fun field => by cases field <;> decide, ?_, ?_⟩
    · have hunknown : ∀ field : Record.Field, [0x78] ≠ Utf8.encode field.name := by
        intro field
        cases field <;> decide +kernel
      simpa using hunknown
    · have hentry : ∀ (field : Record.Field) (octets : Octets), Utf8.encode field.name = octets →
          r.entry field = (.text octets, (r.value? field).getD .nil) := by
        intro field octets hname
        rw [Record.entry, Value.ofString, hname]
      have hfields : [Record.Field.kind, .uri, .reqSeq, .version].map r.entry =
          [entries[1], entries[2], entries[3], entries[5]] := by
        simp only [List.map_cons, List.map_nil]
        rw [hentry .kind [0x6B, 0x69, 0x6E, 0x64] (by decide +kernel),
          hentry .uri [0x75, 0x72, 0x69] (by decide +kernel),
          hentry .reqSeq [0x72, 0x65, 0x71, 0x53, 0x65, 0x71] (by decide +kernel),
          hentry .version [0x76, 0x65, 0x72, 0x73, 0x69, 0x6F, 0x6E] (by decide +kernel)]
        rfl
      rw [hfields]
      have hlast : [entries[1], entries[2], entries[3], entries[4], entries[5]].Perm
          (entries[4] :: [entries[1], entries[2], entries[3], entries[5]]) :=
        @List.perm_middle _ _ [entries[1], entries[2], entries[3]] _
      exact (hlast.cons entries[0]).trans (@List.perm_append_comm _ [entries[0], entries[4]] _)
  have hspells : Spells maxLevels b (.map entries) := by
    have hone {levels : Nat} (octet : UInt8) : Spells levels [0xA1, octet] (.text [octet]) :=
      @Spells.text _ [0xA1] _ (.short (show 1 < 32 by decide))
    refine .map (.wide 0xDE 2 (by decide) (by decide)) ?_ ?_
    · simp only [scattered, List.forall_mem_cons]
      refine ⟨hone _, ?_, ?_, ?_, hone _, ?_, List.forall_mem_nil _⟩
      · exact @Spells.text _ [0xD9, 4] _ (.wide 0xD9 1 (by decide) (by decide))
      · exact @Spells.text _ [0xA3] _ (.short (by decide))
      · exact @Spells.text _ [0xA6] _ (.short (by decide))
      · exact @Spells.text _ [0xA7] _ (.short (by decide))
    · simp only [scattered, List.forall_mem_cons]
      have hextension : Spells 1021 [0xD4, 5, 7] (.extension 5 [7]) :=
        @Spells.extension _ [0xD4] _ _ (.exact 0xD4 (by decide))
      refine ⟨?_, .int (.unsigned 0xCC 1 (by decide) (by decide)), .nil,
        .int (.signed 0xD1 2 (by decide) (by decide)), ?_, .int (.small (by decide)),
        List.forall_mem_nil _⟩
      · exact @Spells.array 1021 [0xDC, 0, 1] [([0xD4, 5, 7], .extension 5 [7])]
          (.wide 0xDC 2 (by decide) (by decide)) (List.forall_mem_singleton.2 hextension)
      · exact @Spells.binary _ [0xC4, 2] _ (.wide 0xC4 1 (by decide) (by decide))
  obtain ⟨-, -, hinbound, -, hheader⟩ := arrangement_irrelevant harranged hspells [0xC2]
  exact ⟨⟨_, _, harranged⟩, hspells, hinbound, hheader⟩

end Courier

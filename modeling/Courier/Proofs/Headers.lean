import Courier.Proofs.Written

/-!
# Headers are read in whatever order they come

A record is written as the map of its fields, the absent ones left out. Others may write the fields
in another order, an absent one as nil, and entries of their own among them. The reader learns the
fields one by one and skips what it does not know, so what it knows in the end is the record.

* `Record.Arranged`: the maps that stand for a record.
* `Draft.learn`: what is known once one more field was read.
* `readEntries_of_spells`: the fields are learnt, whatever stands between them.
* `read?_of_spells`: **a record is read from every map that stands for it**, in whatever form the map
  is written, and what follows it is left.
* `read?_encode`: **a record that was written is read back.**
-/

namespace Courier.Record

open Msgpack (encode Leads Counts Spells maxLevels)

variable {α : Type} {r : Record} {d : Draft} {field : Field} {fields : List Field} {v : Value}
  {b rest tail octets : Octets} {levels : Nat}

/-- The entry of a field. Nil stands for a field that the record does not have. -/
def entry (r : Record) (field : Field) : Value × Value :=
  (.ofString field.name, (r.value? field).getD .nil)

/-- A map stands for a record: in some order it has the entries of these fields, among them all that
the record has, and besides them others under names that no field has. -/
structure Arranged (r : Record) (fields : List Field) (others : List (Octets × Value))
    (entries : List (Value × Value)) : Prop where
  once : fields.Nodup
  complete : ∀ field, (r.value? field).isSome → field ∈ fields
  unknown : ∀ other ∈ others, ∀ field : Field, other.1 ≠ Utf8.encode field.name
  perm : entries.Perm (fields.map r.entry ++ others.map fun other => (.text other.1, other.2))

/-! ## What is known -/

/-- What is known once a field of a record was read. -/
def Draft.learn (r : Record) (d : Draft) : Field → Draft
  | .version => { d with version := some r.version }
  | .kind => { d with kind := some r.kind }
  | .reqSeq => { d with reqSeq := some r.reqSeq }
  | .uri => { d with uri := some r.uri }
  | .method => { d with method := some r.method }

/-- A field is known once it was learnt; learning it says nothing of another. -/
theorem Draft.knows_learn {other : Field} :
    (d.learn r field).knows other = (d.knows other || decide (other = field)) := by
  cases field <;> cases other <;> simp [learn, knows]

theorem Draft.knows_foldl_learn {other : Field} :
    (fields.foldl (Draft.learn r) d).knows other = (d.knows other || decide (other ∈ fields)) := by
  induction fields generalizing d with
  | nil => simp
  | cons field fields ih =>
    rw [List.foldl_cons, ih, knows_learn, Bool.or_assoc]
    simp

/-- Whatever is known is what the record has. -/
structure Draft.Agrees (d : Draft) (r : Record) : Prop where
  version : ∀ version ∈ d.version, version = r.version
  kind : ∀ kind ∈ d.kind, kind = r.kind
  reqSeq : ∀ reqSeq ∈ d.reqSeq, reqSeq = r.reqSeq
  uri : ∀ uri ∈ d.uri, uri = r.uri
  method : ∀ method ∈ d.method, method = r.method

theorem Draft.agrees_empty : Draft.empty.Agrees r := ⟨nofun, nofun, nofun, nofun, nofun⟩

theorem Draft.Agrees.learn (h : d.Agrees r) (field : Field) : (d.learn r field).Agrees r := by
  obtain ⟨hversion, hkind, hseq, huri, hmethod⟩ := h
  cases field <;> constructor <;> simp_all [Draft.learn]

theorem Draft.Agrees.foldl_learn (h : d.Agrees r) (fields : List Field) :
    (fields.foldl (Draft.learn r) d).Agrees r := by
  induction fields generalizing d with
  | nil => exact h
  | cons field fields ih => exact ih (h.learn field)

/-- What is known is the record, once all that the record has is known. -/
theorem Draft.Agrees.finish (h : d.Agrees r)
    (hknows : ∀ field, (r.value? field).isSome → d.knows field = true) : d.finish? = some r := by
  obtain ⟨version, kind, reqSeq, uri, method⟩ := d
  obtain ⟨v, hv⟩ := Option.isSome_iff_exists.1 (hknows .version rfl)
  obtain ⟨k, hk⟩ := Option.isSome_iff_exists.1 (hknows .kind rfl)
  dsimp only at hv hk
  subst hv hk
  -- An optional field that is not known is one that the record does not have.
  have habsent : ∀ {β : Type} {known : Option (Option β)} {has : Option β},
      (∀ o ∈ known, o = has) → (has.isSome → known.isSome = true) → known.getD none = has := by
    intro β known has hagrees hknown
    cases known with
    | none => cases has <;> simp_all
    | some o => exact hagrees o rfl
  have hseq := habsent h.reqSeq fun hsome => hknows .reqSeq (by simpa [value?] using hsome)
  have huri := habsent h.uri fun hsome => hknows .uri (by simpa [value?] using hsome)
  have hmethod := habsent h.method fun hsome => hknows .method (by simpa [value?] using hsome)
  rw [finish?, hseq, huri, hmethod, h.version v rfl, h.kind k rfl]

/-- The fields of a record are all there is to it, in whatever order they were learnt. -/
theorem finish?_foldl_learn (h : ∀ field, (r.value? field).isSome → field ∈ fields) :
    (fields.foldl (Draft.learn r) Draft.empty).finish? = some r := by
  refine (Draft.agrees_empty.foldl_learn fields).finish fun field hfield => ?_
  rw [Draft.knows_foldl_learn, decide_eq_true (h field hfield), Bool.or_true]

/-! ## Values of fields -/

theorem readNat_of_counts {bits n : Nat} (h : Counts n rest b) (hn : n < 2 ^ bits)
    (hw : n < 2 ^ 64) : readNat bits b = some (n, rest) := by
  obtain ⟨head, tail, hhead, hi⟩ := h
  have hint : WireInt.ofInt? n = some ⟨n, by omega, by omega⟩ :=
    WireInt.ofInt?_eq_some_iff.2 rfl
  have hnat : WireInt.toNat? ⟨n, by omega, by omega⟩ = some n := by
    rw [WireInt.toNat?, if_pos (Int.natCast_nonneg n), Int.toNat_natCast]
  rw [hint, Option.map_some] at hi
  simp only [readNat, hhead, Option.bind_some, hi, hnat, if_pos hn]

theorem readText_of_leads {octets : Octets} {s : String}
    (h : Leads .text octets.length (octets ++ rest) b) (hs : Utf8.decode? octets = some s) :
    readText b = some (s, rest) := by
  obtain ⟨size, tail, hhead, hsize⟩ := h
  simp only [readText, hhead, Option.bind_some, Msgpack.octets?_of_read hsize, hs, Option.map_some]

/-- What does not begin as nil does is the thing itself. -/
theorem readOptional_of_head {item : Octets → Option (α × Octets)} {head : Msgpack.Head}
    (h : head? b = some (head, tail)) (hne : head ≠ .nil) :
    readOptional item b = (item b).map fun x => (some x.1, x.2) := by
  cases b with
  | nil => cases h
  | cons octet b =>
    rw [readOptional_cons, if_neg]
    rintro rfl
    cases h
    exact hne rfl

theorem readOptional_of_counts {n : Nat} (h : Counts n rest b) (hn : n < 2 ^ 64) :
    readOptional (readNat 64) b = some (some n, rest) := by
  have hread := readNat_of_counts h hn hn
  obtain ⟨head, tail, hhead, hi⟩ := h
  have hne : head ≠ .nil := by
    rintro rfl
    rw [WireInt.ofInt?, dif_pos (by omega)] at hi
    cases hi
  rw [readOptional_of_head hhead hne, hread, Option.map_some]

theorem readOptional_of_leads {octets : Octets} {s : String}
    (h : Leads .text octets.length (octets ++ rest) b) (hs : Utf8.decode? octets = some s) :
    readOptional readText b = some (some s, rest) := by
  have hread := readText_of_leads h hs
  obtain ⟨size, tail, hhead, -⟩ := h
  rw [readOptional_of_head hhead nofun, hread, Option.map_some]

theorem counts_of_spells_word {n : UInt64} (hb : Spells levels b (.ofUInt64 n)) (rest : Octets) :
    Counts n.toNat rest (b ++ rest) := by
  cases hb with
  | int h => exact Msgpack.counts_of_numeral h rest

theorem readOptional_of_spells_nil {item : Octets → Option (α × Octets)}
    (hb : Spells levels b .nil) (rest : Octets) :
    readOptional item (b ++ rest) = some (none, rest) := by
  cases hb
  rfl

/-- An optional text is read, nil standing for none. -/
theorem readOptional_of_spells_text {s : Option String}
    (hb : Spells levels b ((s.map Value.ofString).getD .nil)) (rest : Octets) :
    readOptional readText (b ++ rest) = some (s, rest) := by
  cases s with
  | none => exact readOptional_of_spells_nil hb rest
  | some s =>
    simp only [Option.map_some, Option.getD_some, Value.ofString] at hb
    cases hb with
    | @text _ head _ h =>
      rw [List.append_assoc]
      exact readOptional_of_leads (Msgpack.leads_text h _) (Utf8.decode?_encode s)

/-- The value of a field is learnt, in whatever form it is written. -/
theorem readField_of_spells (hb : Spells levels b (r.entry field).2) (hd : d.knows field = false)
    (rest : Octets) : readField d field (b ++ rest) = some (d.learn r field, rest) := by
  unfold readField
  rw [if_neg (by simp [hd])]
  cases field with
  | version =>
    have hlt := r.version.toNat_lt
    have hcounts := counts_of_spells_word (n := r.version.toUInt64) hb rest
    rw [UInt32.toNat_toUInt64] at hcounts
    simp only [readNat_of_counts hcounts hlt (by omega), Option.map_some, UInt32.ofNat_toNat]
    rfl
  | kind =>
    have hlt := r.kind.toNat_lt
    have hcounts := counts_of_spells_word (n := r.kind.toUInt64) hb rest
    rw [UInt8.toNat_toUInt64] at hcounts
    simp only [readNat_of_counts hcounts hlt (by omega), Option.map_some, UInt8.ofNat_toNat]
    rfl
  | reqSeq =>
    have hread : readOptional (readNat 64) (b ++ rest) = some (r.reqSeq.map UInt64.toNat, rest) := by
      simp only [entry, value?] at hb
      cases hseq : r.reqSeq with
      | none => exact readOptional_of_spells_nil (by simpa [hseq] using hb) rest
      | some seq =>
        rw [hseq] at hb
        exact readOptional_of_counts (counts_of_spells_word hb rest) seq.toNat_lt
    simp [hread, Draft.learn, Function.comp_def]
  | uri =>
    have hread := readOptional_of_spells_text hb rest
    simp only [hread, Option.map_some, Draft.learn]
  | method =>
    have hread := readOptional_of_spells_text hb rest
    simp only [hread, Option.map_some, Draft.learn]

/-! ## Entries -/

theorem Field.mem_all (field : Field) : field ∈ Field.all := by
  cases field <;> decide

theorem Field.ofName?_name (field : Field) :
    Field.ofName? (Utf8.encode field.name) = some field := by
  cases field <;> decide +kernel

theorem Field.ofName?_eq_none_iff :
    Field.ofName? octets = none ↔ ∀ field : Field, octets ≠ Utf8.encode field.name := by
  simp only [ofName?, List.find?_eq_none, beq_iff_eq]
  exact ⟨fun h field heq => h field field.mem_all heq.symm, fun h field _ heq => h field heq.symm⟩

/-- The field that an entry names. -/
def named? : Value × Value → Option Field
  | (.text octets, _) => Field.ofName? octets
  | _ => none

@[simp] theorem named?_entry (field : Field) : named? (r.entry field) = some field :=
  Field.ofName?_name field

/-- A text is read as the key of the field that it names, if there is one. -/
theorem readKey_of_spells (hb : Spells levels b (.text octets)) (rest : Octets) :
    readKey (b ++ rest) = some (Field.ofName? octets, rest) := by
  cases hb with
  | @text _ head _ h =>
    obtain ⟨size, tail, hhead, hsize⟩ := Msgpack.leads_text h (octets ++ rest)
    rw [List.append_assoc]
    simp only [readKey, hhead, Option.bind_some, Msgpack.octets?_of_read hsize, Option.map_some]

/-- An entry under a name that no field has is skipped, an entry of the record learnt. -/
theorem readEntry_of_spells {e : Value × Value} {key value : Octets}
    (he : (∃ field, e = r.entry field) ∨ ∃ octets, e.1 = .text octets ∧ Field.ofName? octets = none)
    (hk : Spells (maxLevels - 1) key e.1) (hv : Spells (maxLevels - 1) value e.2)
    (hd : ∀ field ∈ named? e, d.knows field = false) (rest : Octets) :
    readEntry d (key ++ value ++ rest) = some ((named? e).elim d (d.learn r), rest) := by
  rw [List.append_assoc, readEntry]
  rcases he with ⟨field, rfl⟩ | ⟨octets, hkey, hunknown⟩
  · have hknows := hd field (named?_entry field)
    rw [readKey_of_spells hk, Field.ofName?_name, Option.bind_some, named?_entry]
    exact readField_of_spells hv hknows rest
  · obtain ⟨k, v⟩ := e
    dsimp only at hkey
    subst hkey
    have hnone : named? (.text octets, v) = none := hunknown
    rw [readKey_of_spells hk, hunknown, Option.bind_some, hnone]
    simp only [Msgpack.read_of_spells hv, Option.map_some, Option.elim_none]

/-- The fields are learnt one after the other, whatever stands between them. -/
theorem readEntries_of_spells {parts : List ((Octets × Value) × (Octets × Value))}
    (hkeys : ∀ p ∈ parts, Spells (maxLevels - 1) p.1.1 p.1.2)
    (hvalues : ∀ p ∈ parts, Spells (maxLevels - 1) p.2.1 p.2.2)
    (he : ∀ p ∈ parts, (∃ field, (p.1.2, p.2.2) = r.entry field) ∨
      ∃ octets, p.1.2 = .text octets ∧ Field.ofName? octets = none)
    (hn : ((parts.map fun p => (p.1.2, p.2.2)).filterMap named?).Nodup)
    (hd : ∀ field ∈ (parts.map fun p => (p.1.2, p.2.2)).filterMap named?, d.knows field = false)
    (rest : Octets) :
    readEntries d parts.length (parts.flatMap (fun p => p.1.1 ++ p.2.1) ++ rest) =
      some (((parts.map fun p => (p.1.2, p.2.2)).filterMap named?).foldl (Draft.learn r) d, rest) := by
  induction parts generalizing d with
  | nil => rfl
  | cons p parts ih =>
    rw [List.forall_mem_cons] at hkeys hvalues he
    rw [List.map_cons] at hn hd ⊢
    have hentry : ∀ field ∈ named? (p.1.2, p.2.2), d.knows field = false := by
      intro field hfield
      exact hd field (List.mem_filterMap.2 ⟨_, List.mem_cons_self, hfield⟩)
    rw [List.length_cons, List.flatMap_cons, List.append_assoc, readEntries,
      readEntry_of_spells he.1 hkeys.1 hvalues.1 hentry]
    dsimp only
    cases hnamed : named? (p.1.2, p.2.2) with
    | none =>
      rw [List.filterMap_cons_none hnamed] at hn hd ⊢
      exact ih hkeys.2 hvalues.2 he.2 hn hd
    | some field =>
      rw [List.filterMap_cons_some hnamed] at hn hd ⊢
      rw [List.nodup_cons] at hn
      -- No field comes twice, which the reader would refuse.
      refine ih hkeys.2 hvalues.2 he.2 hn.2 fun other hother => ?_
      have hne : other ≠ field := fun h => hn.1 (h ▸ hother)
      rw [Option.elim_some, Draft.knows_learn, hd other (List.mem_cons_of_mem _ hother),
        decide_eq_false hne, Bool.or_false]

/-! ## Records -/

section Arranged

variable {others : List (Octets × Value)} {entries : List (Value × Value)}

/-- Each entry is one of the record or has a name that no field has. -/
theorem Arranged.entry_cases (h : r.Arranged fields others entries) {e : Value × Value}
    (he : e ∈ entries) :
    (∃ field, e = r.entry field) ∨ ∃ octets, e.1 = .text octets ∧ Field.ofName? octets = none := by
  rcases List.mem_append.1 (h.perm.mem_iff.1 he) with hfield | hother
  · obtain ⟨field, -, rfl⟩ := List.mem_map.1 hfield
    exact .inl ⟨field, rfl⟩
  · obtain ⟨other, hmem, rfl⟩ := List.mem_map.1 hother
    exact .inr ⟨other.1, rfl, Field.ofName?_eq_none_iff.2 (h.unknown other hmem)⟩

/-- The fields are what the entries name. -/
theorem Arranged.named_perm (h : r.Arranged fields others entries) :
    (entries.filterMap named?).Perm fields := by
  have hfields : (fields.map r.entry).filterMap named? = fields := by
    simp only [List.filterMap_map, Function.comp_def, named?_entry, List.filterMap_some]
  have hothers : (others.map fun other => (Value.text other.1, other.2)).filterMap named? = [] := by
    rw [List.filterMap_eq_nil_iff, List.forall_mem_map]
    exact fun other hother => Field.ofName?_eq_none_iff.2 (h.unknown other hother)
  have hperm := h.perm.filterMap named?
  rw [List.filterMap_append, hfields, hothers, List.append_nil] at hperm
  exact hperm

/-- **A record is read from every map that stands for it**, in whatever form the map is written. -/
theorem read?_of_spells (h : r.Arranged fields others entries)
    (hb : Spells maxLevels b (.map entries)) (rest : Octets) :
    read? (b ++ rest) = some (r, rest) := by
  have hnamed := h.named_perm
  cases hb with
  | @map _ head parts hhead hkeys hvalues =>
    have hcases : ∀ p ∈ parts, (∃ field, (p.1.2, p.2.2) = r.entry field) ∨
        ∃ octets, p.1.2 = .text octets ∧ Field.ofName? octets = none :=
      fun p hp => h.entry_cases (List.mem_map_of_mem hp)
    have hknows : ∀ field, Draft.empty.knows field = false := by
      intro field
      cases field <;> rfl
    have hentries := readEntries_of_spells hkeys hvalues hcases (hnamed.nodup_iff.2 h.once)
      (fun field _ => hknows field) rest
    have hfinish := finish?_foldl_learn fun field hfield =>
      hnamed.mem_iff.2 (h.complete field hfield)
    obtain ⟨size, tail, hhead, hsize⟩ := Msgpack.leads_map hhead
      (parts.flatMap (fun p => p.1.1 ++ p.2.1) ++ rest)
    rw [List.append_assoc]
    simp only [read?, hhead, Option.bind_some, hsize, hentries, hfinish, Option.map_some]

end Arranged

theorem fits_name (field : Field) : (Value.ofString field.name).fits = true := by
  cases field <;> decide +kernel

/-- The entry of a field, if the record has it. -/
def pair? (r : Record) (field : Field) : Option (Value × Value) :=
  (r.value? field).map fun value => (.ofString field.name, value)

theorem toValue_eq (r : Record) : r.toValue = .map (Field.all.filterMap r.pair?) := rfl

/-- The map of a record stands for it. -/
theorem arranged_pairs (r : Record) :
    r.Arranged (Field.all.filter fun field => (r.value? field).isSome) []
      (Field.all.filterMap r.pair?) where
  once := List.Pairwise.filter _ (by decide : Field.all.Nodup)
  complete field hfield := List.mem_filter.2 ⟨field.mem_all, hfield⟩
  unknown := nofun
  perm := by
    obtain ⟨version, kind, reqSeq, uri, method⟩ := r
    cases reqSeq <;> cases uri <;> cases method <;> exact .refl _

/-- The value of a field is a number or a text. -/
theorem value?_plain (hv : r.value? field = some v) : v.levels = 0 ∧ v.isTextual = true := by
  cases field with
  | version | kind =>
    cases hv
    exact ⟨rfl, rfl⟩
  | reqSeq =>
    obtain ⟨seq, -, rfl⟩ := Option.map_eq_some_iff.1 hv
    exact ⟨rfl, rfl⟩
  | uri | method =>
    obtain ⟨s, -, rfl⟩ := Option.map_eq_some_iff.1 hv
    exact ⟨rfl, Value.isTextual_ofString s⟩

/-- The entries of a record are names with numbers or texts. -/
theorem toValue_plain (r : Record) : r.toValue.levels ≤ maxLevels ∧ r.toValue.isTextual = true := by
  have hentry : ∀ e ∈ Field.all.filterMap r.pair?, (e.1.levels = 0 ∧ e.2.levels = 0) ∧
      e.1.isTextual = true ∧ e.2.isTextual = true := by
    intro e he
    obtain ⟨field, -, hpair⟩ := List.mem_filterMap.1 he
    obtain ⟨v, hv, rfl⟩ := Option.map_eq_some_iff.1 hpair
    obtain ⟨hlevels, htextual⟩ := value?_plain hv
    exact ⟨⟨rfl, hlevels⟩, Value.isTextual_ofString field.name, htextual⟩
  have hlevels : r.toValue.levels ≤ 0 + 1 := by
    rw [toValue_eq, Value.levels_map_le]
    exact fun e he => ⟨Nat.le_of_eq (hentry e he).1.1, Nat.le_of_eq (hentry e he).1.2⟩
  refine ⟨Nat.le_trans hlevels (by decide), ?_⟩
  rw [toValue_eq, Value.isTextual_map]
  exact fun e he => (hentry e he).2

/-- **A record that was written is read back.** -/
theorem read?_encode (hf : r.toValue.fits = true) (rest : Octets) :
    read? (encode r.toValue ++ rest) = some (r, rest) := by
  obtain ⟨hlevels, htextual⟩ := toValue_plain r
  have hspells := Msgpack.spells_encode hlevels hf
  rw [Value.normal_of_isTextual htextual] at hspells
  exact read?_of_spells (arranged_pairs r) hspells rest

end Courier.Record

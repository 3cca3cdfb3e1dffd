import Courier.Proofs.RoundTrip

/-!
# Whatever is read can be written

A reader takes every width and every form of a header, but what it makes of them is always
something that the writer has a form for: lengths of four octets, texts that are UTF-8, and no more
levels than it allows. So what was read can be written, and is read back as it was; and since the
writer has one form for each thing, writing it again changes nothing.

* `Yields`: everything that a reader takes meets a condition. It follows how readers are built.
* `Msgpack.yields_read`, `Record.yields_record`: what is taken by the readers of values and headers.
* `Frame.writable_of_decode`: **whatever is read can be written.**
* `Frame.reencoding_canonical`: it is read back as it was, and written in the same way again.
-/

namespace Courier

variable {α β : Type}

/-- A reader of which everything that it takes meets a condition. -/
structure Yields (read : Octets → Option (α × Octets)) (P : α → Prop) : Prop where
  taken : ∀ {b a rest}, read b = some (a, rest) → P a

namespace Yields

variable {read : Octets → Option (α × Octets)} {P Q : α → Prop}

/-- Nothing need be asked of what is taken. -/
theorem any : Yields read fun _ => True where
  taken _ := trivial

theorem mono (h : Yields read P) (hPQ : ∀ a, P a → Q a) : Yields read Q where
  taken hb := hPQ _ (h.taken hb)

theorem pure {a : α} (h : P a) : Yields (fun b => some (a, b)) P where
  taken hb := by
    cases hb
    exact h

theorem none : Yields (fun _ => (.none : Option (α × Octets))) P where
  taken hb := nomatch hb

/-- Something that is found without reading. -/
theorem ofOption {o : Option α} (h : ∀ a ∈ o, P a) : Yields (fun b => o.map (·, b)) P where
  taken hb := by
    obtain ⟨_, ha, heq⟩ := Option.map_eq_some_iff.1 hb
    cases heq
    exact h _ ha

theorem ite {first second : Octets → Option (α × Octets)} {c : Prop} [Decidable c]
    (h : c → Yields first P) (h' : ¬ c → Yields second P) :
    Yields (fun b => if c then first b else second b) P := by
  by_cases hc : c
  · simpa only [if_pos hc] using h hc
  · simpa only [if_neg hc] using h' hc

/-- One reader after another, which may rely on what the first gave. -/
theorem bind {next : α × Octets → Option (β × Octets)} {P' : β → Prop} (h : Yields read P)
    (hnext : ∀ a, P a → Yields (fun rest => next (a, rest)) P') :
    Yields (fun b => (read b).bind next) P' where
  taken hb := by
    obtain ⟨⟨a, middle⟩, ha, hc⟩ := Option.bind_eq_some_iff.1 hb
    exact (hnext a (h.taken ha)).taken hc

/-- What is read is made into something else. -/
theorem map {f : α × Octets → β × Octets} {P' : β → Prop} (h : Yields read P)
    (hf : ∀ a rest, P a → P' (f (a, rest)).1) : Yields (fun b => (read b).map f) P' where
  taken hb := by
    obtain ⟨⟨a, middle⟩, ha, hc⟩ := Option.map_eq_some_iff.1 hb
    have hP := hf a middle (h.taken ha)
    rw [hc] at hP
    exact hP

end Yields

/-! ## Octets -/

/-- Digits stand for a number that has that many. -/
theorem natOf_lt (b : Octets) : Octets.natOf b < 256 ^ b.length := by
  induction b with
  | nil => exact Nat.one_pos
  | cons octet b ih =>
    have hoctet : octet.toNat ≤ 255 := Nat.le_of_lt_succ octet.toNat_lt
    have hstep : octet.toNat * 256 ^ b.length ≤ 255 * 256 ^ b.length :=
      Nat.mul_le_mul_right _ hoctet
    rw [Octets.natOf, List.foldl_cons, Octets.foldl_natOf, List.length_cons, Nat.pow_succ,
      Nat.zero_mul, Nat.zero_add]
    omega

theorem yields_split? (n : Nat) : Yields (Octets.split? n) fun octets => octets.length = n where
  taken hb := (Octets.split?_eq_some_iff.1 hb).2

theorem yields_nat? (width : Nat) : Yields (Octets.nat? width) fun n => n < 256 ^ width :=
  (yields_split? width).map fun octets _ hlength => hlength ▸ natOf_lt octets

namespace Msgpack

/-! ## Heads -/

/-- Whether four octets hold every number of a size. -/
def Size.isBounded : Size → Bool
  | .stated n => n < 2 ^ 32
  | .field width => width ≤ 4

/-- Whether four octets hold the length that a head announces, if it announces one. -/
def Head.isBounded : Head → Bool
  | .text size | .binary size | .extension size | .array size | .map size => size.isBounded
  | _ => true

/-- **No head announces a length of more than four octets.** -/
theorem Head.isBounded_of_ofOctet? {octet : UInt8} {head : Head}
    (h : Head.ofOctet? octet = some head) : head.isBounded = true := by
  have hall : ∀ n : Fin 256, ((ofOctet? (.ofNat n.val)).all isBounded) = true := by decide +kernel
  have := hall ⟨octet.toNat, octet.toNat_lt⟩
  rw [UInt8.ofNat_toNat, h] at this
  exact this

theorem yields_head : Yields Record.head? fun head => head.isBounded = true where
  taken {b head rest} hb := by
    cases b with
    | nil => cases hb
    | cons octet b =>
      obtain ⟨head', hhead, heq⟩ := Option.map_eq_some_iff.1 hb
      cases heq
      exact Head.isBounded_of_ofOctet? hhead

theorem yields_size {size : Size} (h : size.isBounded = true) :
    Yields size.read? fun n => n < 2 ^ 32 := by
  cases size with
  | stated n => exact .pure (by simpa [Size.isBounded] using h)
  | field width =>
    have hwidth : width ≤ 4 := by simpa [Size.isBounded] using h
    refine (yields_nat? width).mono fun n hn => Nat.lt_of_lt_of_le hn ?_
    exact Nat.pow_le_pow_right (by decide) hwidth

theorem yields_sized {size : Size} (h : size.isBounded = true) :
    Yields size.octets? fun octets => octets.length < 2 ^ 32 :=
  (yields_size h).bind fun n hn => (yields_split? n).mono fun _ hlength => hlength ▸ hn

/-! ## Values -/

/-- A value that the writer has a form for, within so many levels. -/
structure Writable (levels : Nat) (v : Value) : Prop where
  levels_le : v.levels ≤ levels
  fits : v.fits = true
  textual : v.isTextual = true

/-- So many things as are asked for, on top of those there are. -/
theorem yields_collect {item : Octets → Option (α × Octets)} {P : α → Prop} (h : Yields item P)
    {done : List α} (hdone : ∀ a ∈ done, P a) (n : Nat) :
    Yields (collect item done n) fun as => as.length = done.length + n ∧ ∀ a ∈ as, P a := by
  induction n generalizing done with
  | zero =>
    exact .pure ⟨List.length_reverse, fun a ha => hdone a (List.mem_reverse.1 ha)⟩
  | succ n ih =>
    constructor
    intro b as rest hb
    rw [collect] at hb
    split at hb
    · rename_i a middle ha
      have hrest := (ih (List.forall_mem_cons.2 ⟨h.taken ha, hdone⟩)).taken hb
      rw [List.length_cons] at hrest
      exact ⟨by omega, hrest.2⟩
    · cases hb

theorem yields_items {item : Octets → Option (α × Octets)} {P : α → Prop} (h : Yields item P)
    (n : Nat) : Yields (collect item [] n) fun as => as.length = n ∧ ∀ a ∈ as, P a :=
  (yields_collect h (List.forall_mem_nil P) n).mono fun _ has =>
    ⟨has.1.trans (Nat.zero_add n), has.2⟩

theorem yields_entry {item : Octets → Option (Value × Octets)} {P : Value → Prop}
    (h : Yields item P) : Yields (readEntry item) fun e => P e.1 ∧ P e.2 :=
  h.bind fun _ hkey => h.map fun _ _ hvalue => ⟨hkey, hvalue⟩

theorem writable_textValue {octets : Octets} (h : octets.length < 2 ^ 32) (levels : Nat) :
    Writable levels (textValue octets) := by
  unfold textValue
  split
  · rename_i htext
    exact ⟨Nat.zero_le _, Value.fits_text.2 h, htext⟩
  · exact ⟨Nat.zero_le _, Value.fits_binary.2 h, rfl⟩

theorem yields_value {head : Head} (hb : head.isBounded = true) {levels : Nat}
    {item : Option (Octets → Option (Value × Octets))}
    (h : ∀ reader ∈ item, ∃ below, levels = below + 1 ∧ Yields reader (Writable below)) :
    Yields (head.value? item) (Writable levels) := by
  cases head with
  | nil => exact .pure ⟨Nat.zero_le _, rfl, rfl⟩
  | bool v => exact .pure ⟨Nat.zero_le _, rfl, rfl⟩
  | immediate | unsigned | signed | float32 | float64 =>
    exact Yields.any.map fun _ _ _ => ⟨Nat.zero_le _, rfl, rfl⟩
  | text size => exact (yields_sized hb).map fun _ _ hlength => writable_textValue hlength levels
  | binary size =>
    exact (yields_sized hb).map fun _ _ hlength =>
      ⟨Nat.zero_le _, Value.fits_binary.2 hlength, rfl⟩
  | extension size =>
    cases item with
    | none => exact .none
    | some reader =>
      obtain ⟨below, rfl, -⟩ := h reader rfl
      refine (yields_size hb).bind fun n hn => (yields_split? (n + 1)).bind fun octets hlength => ?_
      cases octets with
      | nil => exact .none
      | cons type octets =>
        have hn' : octets.length < 2 ^ 32 := by
          rw [List.length_cons] at hlength
          omega
        exact .pure ⟨Nat.le_add_left _ _, Value.fits_extension.2 hn', rfl⟩
  | array size =>
    cases item with
    | none => exact .none
    | some reader =>
      obtain ⟨below, rfl, hreader⟩ := h reader rfl
      refine (yields_size hb).bind fun n hn => (yields_items hreader n).map ?_
      rintro items rest ⟨rfl, hitems⟩
      exact ⟨Value.levels_array_le.2 fun v hv => (hitems v hv).levels_le,
        Value.fits_array.2 ⟨hn, fun v hv => (hitems v hv).fits⟩,
        Value.isTextual_array.2 fun v hv => (hitems v hv).textual⟩
  | map size =>
    cases item with
    | none => exact .none
    | some reader =>
      obtain ⟨below, rfl, hreader⟩ := h reader rfl
      refine (yields_size hb).bind fun n hn => (yields_items (yields_entry hreader) n).map ?_
      rintro entries rest ⟨rfl, hentries⟩
      exact ⟨Value.levels_map_le.2 fun e he =>
          ⟨(hentries e he).1.levels_le, (hentries e he).2.levels_le⟩,
        Value.fits_map.2 ⟨hn, fun e he => ⟨(hentries e he).1.fits, (hentries e he).2.fits⟩⟩,
        Value.isTextual_map.2 fun e he => ⟨(hentries e he).1.textual, (hentries e he).2.textual⟩⟩

/-- **A value that was read can be written**, within the levels that were allowed. -/
theorem yields_read (levels : Nat) : Yields (read levels) (Writable levels) := by
  have hwith : ∀ {levels item},
      (∀ reader ∈ item, ∃ below, levels = below + 1 ∧ Yields reader (Writable below)) →
      Yields (readWith item) (Writable levels) := by
    intro levels item h
    rw [funext (readWith_eq item)]
    exact yields_head.bind fun head hb => yields_value hb h
  -- On the levels: what is nested in a value was read with a level less.
  induction levels with
  | zero => exact hwith nofun
  | succ levels ih =>
    refine hwith fun reader hreader => ?_
    cases hreader
    exact ⟨levels, rfl, ih⟩

end Msgpack

/-! ## Headers -/

namespace Record

open Msgpack (yields_head yields_sized)

theorem fits_of_decode? {octets : Octets} {s : String} (hs : Utf8.decode? octets = some s)
    (h : octets.length < 2 ^ 32) : (Value.ofString s).fits = true := by
  rw [Value.ofString, Value.fits_text, Utf8.encode_of_decode? hs]
  exact h

/-- The octets that a text was read from are as many as those that it is written as. -/
theorem yields_text : Yields readText fun s => (Value.ofString s).fits = true := by
  refine yields_head.bind fun head hb => ?_
  cases head with
  | text size | binary size =>
    exact (yields_sized hb).bind fun octets hlength => .ofOption fun s hs =>
      fits_of_decode? hs hlength
  | _ => exact .none

theorem yields_optional {item : Octets → Option (α × Octets)} {P : α → Prop} (h : Yields item P) :
    Yields (readOptional item) fun o => ∀ a ∈ o, P a where
  taken {_ _ _} hb := by
    unfold readOptional at hb
    split at hb
    · cases hb
      exact nofun
    · obtain ⟨⟨a, rest⟩, ha, heq⟩ := Option.map_eq_some_iff.1 hb
      cases heq
      rintro _ ⟨⟩
      exact h.taken ha

/-- Every text of a record has a length that can be written. -/
structure Fits (uri method : Option String) : Prop where
  uri : ∀ s ∈ uri, (Value.ofString s).fits = true
  method : ∀ s ∈ method, (Value.ofString s).fits = true

/-- Nothing but its texts can keep a record from being written. -/
theorem fits_toValue {r : Record} (h : Fits r.uri r.method) : r.toValue.fits = true := by
  rw [toValue_eq, Value.fits_map]
  refine ⟨Nat.lt_of_le_of_lt (List.length_filterMap_le _ _) (by decide), fun e he => ?_⟩
  obtain ⟨field, -, hentry⟩ := List.mem_filterMap.1 he
  obtain ⟨v, hv, rfl⟩ := Option.map_eq_some_iff.1 hentry
  refine ⟨fits_name field, ?_⟩
  cases field with
  | version | kind =>
    cases hv
    rfl
  | reqSeq =>
    obtain ⟨seq, -, rfl⟩ := Option.map_eq_some_iff.1 hv
    rfl
  | uri =>
    obtain ⟨s, hs, rfl⟩ := Option.map_eq_some_iff.1 hv
    exact h.uri s hs
  | method =>
    obtain ⟨s, hs, rfl⟩ := Option.map_eq_some_iff.1 hv
    exact h.method s hs

/-- What is known of the texts can be written. -/
def Draft.Fits (d : Draft) : Prop :=
  Record.Fits (d.uri.getD none) (d.method.getD none)

theorem Draft.fits_empty : Draft.empty.Fits := ⟨nofun, nofun⟩

theorem Draft.Fits.finish {d : Draft} {r : Record} (h : d.Fits) (hr : d.finish? = some r) :
    r.toValue.fits = true := by
  unfold Draft.finish? at hr
  split at hr
  · cases hr
    exact fits_toValue h
  · cases hr

theorem yields_field {d : Draft} (hd : d.Fits) (field : Field) :
    Yields (readField d field) Draft.Fits := by
  unfold readField
  cases d.knows field with
  | true => exact .none
  | false =>
    cases field with
    | version | kind | reqSeq => exact Yields.any.map fun _ _ _ => ⟨hd.uri, hd.method⟩
    | uri => exact (yields_optional yields_text).map fun _ _ hs => ⟨hs, hd.method⟩
    | method => exact (yields_optional yields_text).map fun _ _ hs => ⟨hd.uri, hs⟩

/-- An entry under an unknown key leaves what is known as it was. -/
theorem yields_entry {d : Draft} (hd : d.Fits) : Yields (readEntry d) Draft.Fits := by
  refine Yields.any.bind fun field _ => ?_
  cases field with
  | none => exact Yields.any.map fun _ _ _ => hd
  | some field => exact yields_field hd field

theorem yields_entries {d : Draft} (hd : d.Fits) (n : Nat) :
    Yields (fun b => readEntries d n b) Draft.Fits where
  taken {b d' rest} hb := by
    induction n generalizing d b with
    | zero =>
      cases hb
      exact hd
    | succ n ih =>
      rw [readEntries] at hb
      split at hb
      · rename_i hentry
        exact ih ((yields_entry hd).taken hentry) hb
      · cases hb

theorem yields_fields {d : Draft} (hd : d.Fits) (fields : List Field) :
    Yields (fun b => readFields d fields b) Draft.Fits := by
  induction fields generalizing d with
  | nil => exact .pure hd
  | cons field fields ih => exact (yields_field hd field).bind fun d hd => ih hd

/-- **A header that was read can be written**, whatever form it had. -/
theorem yields_record : Yields read? fun r => r.toValue.fits = true := by
  have hfinish (d : Draft) (hd : d.Fits) :
      Yields (fun rest => d.finish?.map (·, rest)) fun r => r.toValue.fits = true :=
    .ofOption fun r hr => hd.finish hr
  refine Yields.any.bind fun head _ => ?_
  cases head with
  | map size =>
    exact Yields.any.bind fun n _ => (yields_entries Draft.fits_empty n).bind hfinish
  | array size =>
    refine Yields.any.bind fun n _ => .ite (fun _ => ?_) fun _ => .none
    exact (yields_fields Draft.fits_empty (Field.all.take n)).bind hfinish
  | binary size =>
    refine Yields.any.bind fun octets _ => ?_
    match octets with
    | [version, kind] => exact .pure (fits_toValue ⟨nofun, nofun⟩)
    | [] | [_] | _ :: _ :: _ :: _ => exact .none
  | _ => exact .none

end Record

/-! ## Attachments -/

namespace Attachment

/-- The name and the octets of an attachment are taken from its entries. -/
theorem fits_parts (filename : Option String) (blob : Option Octets)
    {entries : List (Value × Value)} (h : ∀ e ∈ entries, e.2.fits = true)
    (hfilename : ∀ s ∈ filename, (Value.ofString s).fits = true)
    (hblob : ∀ octets ∈ blob, (Value.binary octets).fits = true) :
    (∀ s ∈ (parts filename blob entries).1, (Value.ofString s).fits = true) ∧
      ∀ octets ∈ (parts filename blob entries).2, (Value.binary octets).fits = true := by
  fun_induction parts filename blob entries with
  | case1 => exact ⟨hfilename, hblob⟩
  | case2 filename blob key entries hkey octets ih =>
    rw [List.forall_mem_cons] at h
    have hoctets := Value.fits_text.1 h.1
    exact ih h.2 (fun s hs => Record.fits_of_decode? hs hoctets) hblob
  | case3 filename blob key entries hkey octets ih =>
    rw [List.forall_mem_cons] at h
    refine ih h.2 hfilename ?_
    rintro _ ⟨⟩
    exact h.1
  | case4 filename blob key value entries _ _ ih =>
    exact ih (List.forall_mem_cons.1 h).2 hfilename hblob

/-- An attachment that was read can be written, whatever else was in its map. -/
theorem fits_of_ofValue {v : Value} {a : Attachment} (h : ofValue v = .ok a)
    (hv : v.fits = true) : a.toValue.fits = true := by
  cases v with
  | map entries =>
    rw [Value.fits_map] at hv
    rw [ofValue] at h
    split at h
    · rename_i filename blob hparts
      cases h
      obtain ⟨hfilename, hblob⟩ := fits_parts none none (fun e he => (hv.2 e he).2)
        (fun s hs => absurd hs (Option.not_mem_none s))
        (fun octets hoctets => absurd hoctets (Option.not_mem_none octets))
      rw [hparts] at hfilename hblob
      have hname : (Value.ofString "filename").fits = true ∧
          (Value.ofString "blob").fits = true := by
        decide +kernel
      simp [toValue, hname, hfilename filename rfl, Value.fits_binary.1 (hblob blob rfl)]
    · cases h
  | _ => cases h

end Attachment

namespace Frame

theorem fits_readAttachments {done as : List Attachment} {fuel : Nat} {b : Octets}
    (h : readAttachments done fuel b = .ok as) (hdone : ∀ a ∈ done, a.toValue.fits = true) :
    ∀ a ∈ as, a.toValue.fits = true := by
  fun_induction readAttachments done fuel b with
  | case1 done fuel =>
    cases h
    exact fun a ha => hdone a (List.mem_reverse.1 ha)
  | case4 done octet b fuel value rest hread a ha ih =>
    have hvalue := ((Msgpack.yields_read _).taken hread).fits
    exact ih h (List.forall_mem_cons.2 ⟨Attachment.fits_of_ofValue ha hvalue, hdone⟩)
  -- Otherwise there is a fault.
  | _ => cases h

/-! ## Frames -/

variable {b : Octets} {f : Frame}

/-- **Whatever is read can be written**, and its content is read back as it is. -/
theorem writable_of_decode (h : decode b = .ok f) :
    f.Writable ∧ f.content.isTextual = true := by
  rcases legible b with hr | ⟨header, rest, hr, hc⟩ | ⟨header, rest, content, tail, hr, hc⟩
  · rw [decode_nothing hr] at h
    cases h
  · rw [decode_header hr hc] at h
    cases h
  · rw [decode_content hr hc] at h
    cases has : readAttachments [] tail.length tail with
    | error fault =>
      rw [has] at h
      cases h
    | ok as =>
      rw [has] at h
      cases h
      have hheader := Record.yields_record.taken hr
      have hcontent := (Msgpack.yields_read _).taken hc
      have hattachments := fits_readAttachments has (List.forall_mem_nil _)
      refine ⟨⟨fun v hv => ?_, hcontent.levels_le⟩, hcontent.textual⟩
      simp only [segments, List.mem_cons, List.mem_map] at hv
      obtain rfl | rfl | ⟨a, ha, rfl⟩ := hv
      · exact hheader
      · exact hcontent.fits
      · exact hattachments a ha

/-- **Writing what was read changes nothing but its form.** Whatever form octets have that are read
as a frame, the frame can be written, is read back as it was, and is written in the same way
again. -/
theorem reencoding_canonical (h : decode b = .ok f) :
    f.Writable ∧ decode f.encode = .ok f ∧ ∀ g, decode f.encode = .ok g → g.encode = f.encode := by
  obtain ⟨hwritable, htextual⟩ := writable_of_decode h
  have hread : decode f.encode = .ok f := by
    rw [decode_encode hwritable, Value.normal_of_isTextual htextual]
  refine ⟨hwritable, hread, fun g hg => ?_⟩
  rw [hread] at hg
  cases hg
  rfl

/-- A frame in another form than the one that is written: the fields of its header in another order
and among them one that is unknown, numbers and texts with wider heads than they need, and an
attachment with an entry that means nothing. -/
def oddlyWritten : Octets :=
  [0x83, 0xA4, 0x6B, 0x69, 0x6E, 0x64, 0xCC, 2, 0xA1, 0x78, 0xC0,
    0xA7, 0x76, 0x65, 0x72, 0x73, 0x69, 0x6F, 0x6E, 0xCE, 0, 0, 0, 1,
    0xCD, 0, 5,
    0xDE, 0, 3, 0xA4, 0x62, 0x6C, 0x6F, 0x62, 0xC5, 0, 1, 7, 0xA1, 0x78, 0xC0,
    0xA8, 0x66, 0x69, 0x6C, 0x65, 0x6E, 0x61, 0x6D, 0x65, 0xD9, 1, 0x61]

/-- What is read of it. -/
def oddlyRead : Frame where
  header := ⟨1, 2, none, none, none⟩
  content := .int ⟨5, by decide, by decide⟩
  attachments := [⟨"a", [7]⟩]

theorem reencoding_canonical_oddly :
    decode oddlyWritten = .ok oddlyRead ∧ oddlyRead.encode ≠ oddlyWritten ∧
      oddlyRead.Writable ∧ decode oddlyRead.encode = .ok oddlyRead ∧
      ∀ g, decode oddlyRead.encode = .ok g → g.encode = oddlyRead.encode := by
  have hread : decode oddlyWritten = .ok oddlyRead := rfl
  exact ⟨hread, by decide +kernel, reencoding_canonical hread⟩

end Frame

end Courier

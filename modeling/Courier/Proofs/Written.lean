import Courier.Msgpack.Grammar
import Courier.Proofs.Delimited

/-!
# Written values are read back

Every head of the format is read as what it announces, in whichever of its widths the length or the
number is written, and so is every value. What the writer writes is one of the forms of a value.

* `Leads`, `Counts`: what it is for octets to begin with a head that gives a length or a number.
* `read_of_spells`: **a value is read back in its normal form**, in whatever form it was written.
* `spells_encode`: the writer writes one of the forms of a value.
* `read_encode`: **a value that was written is read back**, and what follows it is left.
-/

namespace Courier

namespace Octets

theorem split?_append (a b : Octets) : split? a.length (a ++ b) = some (a, b) :=
  split?_eq_some_iff.2 ⟨rfl, rfl⟩

theorem nat?_bigEndian {width n : Nat} (h : n < 256 ^ width) (rest : Octets) :
    nat? width (bigEndian width n ++ rest) = some (n, rest) := by
  have hsplit := split?_append (bigEndian width n) rest
  rw [length_bigEndian] at hsplit
  simp only [nat?, hsplit, Option.map_some, natOf_bigEndian h]

end Octets

namespace Msgpack

open Octets (bigEndian)
open Record (head?)

variable {n width : Nat} {octet : UInt8} {rest b : Octets}

/-! ## First octets -/

theorem ofOctet?_immediate (h : n < 2 ^ 7) :
    Head.ofOctet? (UInt8.ofNat n) = some (.immediate n) := by
  have hn : (UInt8.ofNat n).toNat = n := by rw [UInt8.toNat_ofNat']; omega
  simp only [Head.ofOctet?, hn]
  rw [if_pos h]

theorem ofOctet?_negative (h : n < 2 ^ 5) :
    Head.ofOctet? (UInt8.ofNat (2 ^ 8 - 1 - n)) = some (.immediate (.negSucc n)) := by
  have hn : (UInt8.ofNat (2 ^ 8 - 1 - n)).toNat = 2 ^ 8 - 1 - n := by
    rw [UInt8.toNat_ofNat']; omega
  have hi : ((2 ^ 8 - 1 - n : Nat) : Int) - 0x100 = .negSucc n := by omega
  simp only [Head.ofOctet?, hn, hi]
  rw [if_neg (by omega), if_neg (by omega), if_neg (by omega), if_neg (by omega), if_pos (by omega)]

theorem ofOctet?_map (h : n < 2 ^ 4) :
    Head.ofOctet? (UInt8.ofNat (0x80 + n)) = some (.map (.stated n)) := by
  have hn : (UInt8.ofNat (0x80 + n)).toNat = 0x80 + n := by rw [UInt8.toNat_ofNat']; omega
  simp only [Head.ofOctet?, hn]
  rw [if_neg (by omega), if_pos (by omega), Nat.add_sub_cancel_left]

theorem ofOctet?_array (h : n < 2 ^ 4) :
    Head.ofOctet? (UInt8.ofNat (0x90 + n)) = some (.array (.stated n)) := by
  have hn : (UInt8.ofNat (0x90 + n)).toNat = 0x90 + n := by rw [UInt8.toNat_ofNat']; omega
  simp only [Head.ofOctet?, hn]
  rw [if_neg (by omega), if_neg (by omega), if_pos (by omega), Nat.add_sub_cancel_left]

theorem ofOctet?_text (h : n < 2 ^ 5) :
    Head.ofOctet? (UInt8.ofNat (0xA0 + n)) = some (.text (.stated n)) := by
  have hn : (UInt8.ofNat (0xA0 + n)).toNat = 0xA0 + n := by rw [UInt8.toNat_ofNat']; omega
  simp only [Head.ofOctet?, hn]
  rw [if_neg (by omega), if_neg (by omega), if_neg (by omega), if_pos (by omega),
    Nat.add_sub_cancel_left]

theorem head?_cons {head : Head} (h : Head.ofOctet? octet = some head) (rest : Octets) :
    head? (octet :: rest) = some (head, rest) := by
  rw [head?, h, Option.map_some]

/-! ## Lengths -/

/-- The octets begin with a head of a kind that gives the length `n`; then `rest` follows. -/
def Leads (kind : Size → Head) (n : Nat) (rest b : Octets) : Prop :=
  ∃ size tail, head? b = some (kind size, tail) ∧ size.read? tail = some (n, rest)

theorem leads_stated {kind : Size → Head} (h : Head.ofOctet? octet = some (kind (.stated n)))
    (rest : Octets) : Leads kind n rest ([octet] ++ rest) :=
  ⟨.stated n, rest, head?_cons h rest, rfl⟩

theorem leads_field {kind : Size → Head} (h : Head.ofOctet? octet = some (kind (.field width)))
    (hn : n < 256 ^ width) (rest : Octets) :
    Leads kind n rest (octet :: bigEndian width n ++ rest) :=
  ⟨.field width, bigEndian width n ++ rest, head?_cons h _, Octets.nat?_bigEndian hn rest⟩

/-- What is announced is read, if the reader knows the octets that announce it. -/
theorem leads_of_announces {kind : Size → Head} {first limit : Nat} {marks : List (UInt8 × Nat)}
    {head : Octets} (h : Announces first limit marks n head)
    (hshort : n < limit → Head.ofOctet? (UInt8.ofNat (first + n)) = some (kind (.stated n)))
    (hwide : ∀ mark ∈ marks, Head.ofOctet? mark.1 = some (kind (.field mark.2))) (rest : Octets) :
    Leads kind n rest (head ++ rest) := by
  cases h with
  | short hn => exact leads_stated (hshort hn) rest
  | wide mark width hmark hn => exact leads_field (hwide _ hmark) hn rest

variable {head : Octets}

theorem leads_text (h : TextHead n head) (rest : Octets) : Leads .text n rest (head ++ rest) :=
  leads_of_announces h ofOctet?_text (by simp [Head.ofOctet?]) rest

theorem leads_binary (h : BinaryHead n head) (rest : Octets) : Leads .binary n rest (head ++ rest) :=
  leads_of_announces h nofun (by simp [Head.ofOctet?]) rest

theorem leads_array (h : ArrayHead n head) (rest : Octets) : Leads .array n rest (head ++ rest) :=
  leads_of_announces h ofOctet?_array (by simp [Head.ofOctet?]) rest

theorem leads_map (h : MapHead n head) (rest : Octets) : Leads .map n rest (head ++ rest) :=
  leads_of_announces h ofOctet?_map (by simp [Head.ofOctet?]) rest

theorem leads_extension (h : ExtensionHead n head) (rest : Octets) :
    Leads .extension n rest (head ++ rest) := by
  cases h with
  | exact mark hmark =>
    refine leads_stated ?_ rest
    simp only [List.mem_cons, Prod.mk.injEq, List.not_mem_nil, or_false] at hmark
    rcases hmark with ⟨rfl, rfl⟩ | ⟨rfl, rfl⟩ | ⟨rfl, rfl⟩ | ⟨rfl, rfl⟩ | ⟨rfl, rfl⟩ <;> rfl
  | wide h => exact leads_of_announces h nofun (by simp [Head.ofOctet?]) rest

/-! ## Numbers -/

/-- The octets begin with a head that gives the integer `i`; then `rest` follows. -/
def Counts (i : Int) (rest b : Octets) : Prop :=
  ∃ head tail, head? b = some (head, tail) ∧
    head.int? tail = (WireInt.ofInt? i).map (·, rest)

theorem counts_immediate {i : Int} (h : Head.ofOctet? octet = some (.immediate i))
    (rest : Octets) : Counts i rest ([octet] ++ rest) :=
  ⟨.immediate i, rest, head?_cons h rest, rfl⟩

theorem counts_unsigned (h : Head.ofOctet? octet = some (.unsigned width)) (hn : n < 256 ^ width)
    (rest : Octets) : Counts n rest (octet :: bigEndian width n ++ rest) := by
  refine ⟨.unsigned width, bigEndian width n ++ rest, head?_cons h _, ?_⟩
  rw [Head.int?, Octets.nat?_bigEndian hn, Option.bind_some]

theorem counts_signed {i : Int} (h : Head.ofOctet? octet = some (.signed width))
    (hn : n < 256 ^ width) (hi : signedOf width n = i) (rest : Octets) :
    Counts i rest (octet :: bigEndian width n ++ rest) := by
  refine ⟨.signed width, bigEndian width n ++ rest, head?_cons h _, ?_⟩
  simp only [Head.int?, Octets.nat?_bigEndian hn, Option.bind_some, hi]

/-- The two's complement of a negative number stands for that number. -/
theorem signedOf_complement (hw : 0 < width) (h : n < 2 ^ (8 * width - 1)) :
    signedOf width (2 ^ (8 * width) - 1 - n) = .negSucc n := by
  have hpow : 2 ^ (8 * width) = 2 * 2 ^ (8 * width - 1) := by
    rw [← Nat.pow_succ']
    congr 1
    omega
  have hcast : (2 : Int) ^ (8 * width) = (2 ^ (8 * width) : Nat) := (Int.natCast_pow 2 _).symm
  rw [signedOf, if_neg (by omega), hcast, Int.negSucc_eq]
  omega

/-- Half of the numbers of a width stand for themselves. -/
theorem signedOf_of_lt (h : n < 2 ^ (8 * width - 1)) : signedOf width n = n := if_pos h

theorem counts_of_numeral {i : Int} (h : Numeral i b) (rest : Octets) : Counts i rest (b ++ rest) := by
  cases h with
  | small hn => exact counts_immediate (ofOctet?_immediate hn) rest
  | smallNegative hn => exact counts_immediate (ofOctet?_negative hn) rest
  | unsigned mark width hmark hn =>
    refine counts_unsigned ?_ hn rest
    simp only [List.mem_cons, Prod.mk.injEq, List.not_mem_nil, or_false] at hmark
    rcases hmark with ⟨rfl, rfl⟩ | ⟨rfl, rfl⟩ | ⟨rfl, rfl⟩ | ⟨rfl, rfl⟩ <;> rfl
  | signed mark width hmark hn =>
    simp only [List.mem_cons, Prod.mk.injEq, List.not_mem_nil, or_false] at hmark
    rcases hmark with ⟨rfl, rfl⟩ | ⟨rfl, rfl⟩ | ⟨rfl, rfl⟩ | ⟨rfl, rfl⟩ <;>
      exact counts_signed rfl (by omega) (signedOf_of_lt hn) rest
  | negative mark width hmark hn =>
    simp only [List.mem_cons, Prod.mk.injEq, List.not_mem_nil, or_false] at hmark
    rcases hmark with ⟨rfl, rfl⟩ | ⟨rfl, rfl⟩ | ⟨rfl, rfl⟩ | ⟨rfl, rfl⟩ <;>
      exact counts_signed rfl (by omega) (signedOf_complement (by decide) hn) rest

/-! ## Values -/

variable {item : Option (Octets → Option (Value × Octets))}
  {reader : Octets → Option (Value × Octets)}

/-- A head that gives the length of octets is followed by them. -/
theorem octets?_of_read {size : Size} {octets tail : Octets}
    (h : size.read? tail = some (octets.length, octets ++ rest)) :
    size.octets? tail = some (octets, rest) := by
  simp only [Size.octets?, h, Option.bind_some, Octets.split?_append]

theorem readWith_int {i : WireInt} (h : Counts i.val rest b) :
    readWith item b = some (.int i, rest) := by
  obtain ⟨head, tail, hhead, hi⟩ := h
  rw [WireInt.ofInt?_val, Option.map_some] at hi
  rw [readWith_eq, hhead, Option.bind_some]
  -- Only the heads of numbers give one.
  cases head with
  | immediate | unsigned | signed => simp only [Head.value?, hi, Option.map_some]
  | _ => cases hi

theorem readWith_float32 (bits : UInt32) (rest : Octets) :
    readWith item (0xCA :: bigEndian 4 bits.toNat ++ rest) = some (.float32 bits, rest) := by
  have hhead : head? (0xCA :: (bigEndian 4 bits.toNat ++ rest)) =
    some (.float32, bigEndian 4 bits.toNat ++ rest) := rfl
  have hbits : Octets.nat? 4 (bigEndian 4 bits.toNat ++ rest) = some (bits.toNat, rest) :=
    Octets.nat?_bigEndian bits.toNat_lt rest
  simp only [List.cons_append, readWith_eq, hhead, Option.bind_some, Head.value?, hbits,
    Option.map_some, UInt32.ofNat_toNat]

theorem readWith_float64 (bits : UInt64) (rest : Octets) :
    readWith item (0xCB :: bigEndian 8 bits.toNat ++ rest) = some (.float64 bits, rest) := by
  have hhead : head? (0xCB :: (bigEndian 8 bits.toNat ++ rest)) =
    some (.float64, bigEndian 8 bits.toNat ++ rest) := rfl
  have hbits : Octets.nat? 8 (bigEndian 8 bits.toNat ++ rest) = some (bits.toNat, rest) :=
    Octets.nat?_bigEndian bits.toNat_lt rest
  simp only [List.cons_append, readWith_eq, hhead, Option.bind_some, Head.value?, hbits,
    Option.map_some, UInt64.ofNat_toNat]

theorem readWith_text {octets : Octets} (h : Leads .text octets.length (octets ++ rest) b) :
    readWith item b = some (textValue octets, rest) := by
  obtain ⟨size, tail, hhead, hsize⟩ := h
  simp only [readWith_eq, hhead, Option.bind_some, Head.value?, octets?_of_read hsize,
    Option.map_some]

theorem readWith_binary {octets : Octets} (h : Leads .binary octets.length (octets ++ rest) b) :
    readWith item b = some (.binary octets, rest) := by
  obtain ⟨size, tail, hhead, hsize⟩ := h
  simp only [readWith_eq, hhead, Option.bind_some, Head.value?, octets?_of_read hsize,
    Option.map_some]

theorem readWith_extension {type : Int8} {octets : Octets}
    (h : Leads .extension octets.length (type.toUInt8 :: octets ++ rest) b) :
    readWith (some reader) b = some (.extension type octets, rest) := by
  obtain ⟨size, tail, hhead, hsize⟩ := h
  have hsplit := Octets.split?_append (type.toUInt8 :: octets) rest
  rw [List.length_cons] at hsplit
  simp only [readWith_eq, hhead, Option.bind_some, Head.value?, hsize, hsplit,
    Int8.toInt8_toUInt8]

theorem readWith_array {tail : Octets} {items : List Value} (h : Leads .array n tail b)
    (hc : collect reader [] n tail = some (items, rest)) :
    readWith (some reader) b = some (.array items, rest) := by
  obtain ⟨size, tail', hhead, hsize⟩ := h
  simp only [readWith_eq, hhead, Option.bind_some, Head.value?, hsize, hc, Option.map_some]

theorem readWith_map {tail : Octets} {entries : List (Value × Value)} (h : Leads .map n tail b)
    (hc : collect (readEntry reader) [] n tail = some (entries, rest)) :
    readWith (some reader) b = some (.map entries, rest) := by
  obtain ⟨size, tail', hhead, hsize⟩ := h
  simp only [readWith_eq, hhead, Option.bind_some, Head.value?, hsize, hc, Option.map_some]

/-- Things that are written one after the other are collected in their order. -/
theorem collect_flatMap {α β : Type} {read : Octets → Option (β × Octets)} {write : α → Octets}
    {f : α → β} {xs : List α} (h : ∀ x ∈ xs, ∀ rest, read (write x ++ rest) = some (f x, rest))
    (done : List β) (rest : Octets) :
    collect read done xs.length (xs.flatMap write ++ rest) =
      some (done.reverse ++ xs.map f, rest) := by
  induction xs generalizing done with
  | nil => simp [collect]
  | cons x xs ih =>
    rw [List.forall_mem_cons] at h
    rw [List.length_cons, List.flatMap_cons, List.append_assoc, collect, h.1]
    simp only [ih h.2, List.reverse_cons, List.append_assoc, List.singleton_append, List.map_cons]

/-- Whatever its levels, a reader begins with the head. -/
theorem exists_read_eq (levels : Nat) : ∃ item, read levels = readWith item := by
  cases levels with
  | zero => exact ⟨none, rfl⟩
  | succ levels => exact ⟨some (read levels), rfl⟩

/-- **A value is read back in its normal form**, in whatever form it was written, when the reader
has levels enough. -/
theorem read_of_spells {levels : Nat} {v : Value} (h : Spells levels b v) (rest : Octets) :
    read levels (b ++ rest) = some (v.normal, rest) := by
  -- On the form, as the reader takes it: what is nested in a value has a level less.
  induction h generalizing rest with
  | @nil levels =>
    cases levels <;> rfl
  | @bool levels v =>
    cases levels <;> cases v <;> rfl
  | @int levels i b h =>
    obtain ⟨item, hread⟩ := exists_read_eq levels
    rw [hread]
    exact readWith_int (counts_of_numeral h rest)
  | @float32 levels bits =>
    obtain ⟨item, hread⟩ := exists_read_eq levels
    rw [hread]
    exact readWith_float32 bits rest
  | @float64 levels bits =>
    obtain ⟨item, hread⟩ := exists_read_eq levels
    rw [hread]
    exact readWith_float64 bits rest
  | @text levels head octets h =>
    obtain ⟨item, hread⟩ := exists_read_eq levels
    rw [hread, List.append_assoc]
    exact readWith_text (leads_text h _)
  | @binary levels head octets h =>
    obtain ⟨item, hread⟩ := exists_read_eq levels
    rw [hread, List.append_assoc]
    exact readWith_binary (leads_binary h _)
  | extension h =>
    rw [read, List.append_assoc]
    exact readWith_extension (leads_extension h _)
  | @array levels head items h hitems ih =>
    rw [read, List.append_assoc, Value.normal_array, List.map_map]
    exact readWith_array (leads_array h _) (collect_flatMap (fun item hitem => ih item hitem) [] rest)
  | @map levels head entries h hkeys hvalues ihk ihv =>
    rw [read, List.append_assoc, Value.normal_map, List.map_map]
    refine readWith_map (leads_map h _) (collect_flatMap (fun entry hentry rest => ?_) [] rest)
    rw [readEntry, List.append_assoc, ihk entry hentry, Option.bind_some]
    simp only [ihv entry hentry, Option.map_some, Function.comp_apply]

/-! ## Writing -/

theorem textHead_announces (h : n < 2 ^ 32) : TextHead n (textHead n) := by
  unfold textHead
  split
  · exact .short ‹_›
  · split
    · exact .wide _ _ (by decide) (by omega)
    · split <;> exact .wide _ _ (by decide) (by omega)

theorem binaryHead_announces (h : n < 2 ^ 32) : BinaryHead n (binaryHead n) := by
  unfold binaryHead
  split
  · exact .wide _ _ (by decide) (by omega)
  · split <;> exact .wide _ _ (by decide) (by omega)

theorem arrayHead_announces (h : n < 2 ^ 32) : ArrayHead n (arrayHead n) := by
  unfold arrayHead
  split
  · exact .short ‹_›
  · split <;> exact .wide _ _ (by decide) (by omega)

theorem mapHead_announces (h : n < 2 ^ 32) : MapHead n (mapHead n) := by
  unfold mapHead
  split
  · exact .short ‹_›
  · split <;> exact .wide _ _ (by decide) (by omega)

theorem extensionHead_announces (h : n < 2 ^ 32) : ExtensionHead n (extensionHead n) := by
  unfold extensionHead
  -- Five lengths have heads of their own, the others three widths.
  split
  · subst n
    exact .exact _ (by decide)
  split
  · subst n
    exact .exact _ (by decide)
  split
  · subst n
    exact .exact _ (by decide)
  split
  · subst n
    exact .exact _ (by decide)
  split
  · subst n
    exact .exact _ (by decide)
  split
  · exact .wide (.wide _ _ (by decide) (by omega))
  split <;> exact .wide (.wide _ _ (by decide) (by omega))

theorem numeral_encodeNat (h : n < 2 ^ 64) : Numeral n (encodeNat n) := by
  unfold encodeNat
  split
  · exact .small ‹_›
  split
  · exact .unsigned _ _ (by decide) (by omega)
  split
  · exact .unsigned _ _ (by decide) (by omega)
  split <;> exact .unsigned _ _ (by decide) (by omega)

theorem numeral_encodeNegative (h : n < 2 ^ 63) : Numeral (.negSucc n) (encodeNegative n) := by
  unfold encodeNegative
  split
  · exact .smallNegative ‹_›
  split
  · exact .negative _ _ (by decide) ‹_›
  split
  · exact .negative _ _ (by decide) ‹_›
  split
  · exact .negative _ _ (by decide) ‹_›
  · exact .negative _ _ (by decide) h

theorem numeral_encodeInt (i : WireInt) : Numeral i.val (encodeInt i) := by
  obtain ⟨i, hlower, hupper⟩ := i
  cases i with
  | ofNat n =>
    have hn : (n : Int) < 2 ^ 64 := hupper
    exact numeral_encodeNat (by omega)
  | negSucc n => exact numeral_encodeNegative (by omega)

/-- The writer writes one of the forms of a value, or of the binary that stands in for a text. -/
theorem spells_encode {v : Value} {levels : Nat} (hl : v.levels ≤ levels) (hf : v.fits = true) :
    Spells levels (encode v) v.normal := by
  induction v generalizing levels with
  | nil => exact .nil
  | bool v => exact .bool v
  | int i => exact .int (numeral_encodeInt i)
  | float32 bits => exact .float32 bits
  | float64 bits => exact .float64 bits
  | text octets =>
    rw [Value.fits_text] at hf
    rw [encode, encodeText, Value.normal]
    split
    · exact .text (textHead_announces hf)
    · exact .binary (binaryHead_announces hf)
  | binary octets =>
    rw [Value.fits_binary] at hf
    exact .binary (binaryHead_announces hf)
  | extension type octets =>
    rw [Value.fits_extension] at hf
    cases levels with
    | zero => exact absurd hl (Nat.not_succ_le_zero _)
    | succ levels => exact .extension (extensionHead_announces hf)
  | array items ih =>
    cases levels with
    | zero => exact absurd hl (Nat.not_succ_le_zero _)
    | succ levels =>
      rw [Value.levels_array_le] at hl
      rw [Value.fits_array] at hf
      have hspells := @Spells.array levels (arrayHead items.length)
        (items.map fun v => (encode v, v.normal)) (by simpa using arrayHead_announces hf.1)
        (List.forall_mem_map.2 fun v hv => ih v hv (hl v hv) (hf.2 v hv))
      simpa [encode_array, List.flatMap_map, Function.comp_def] using hspells
  | map entries ih =>
    cases levels with
    | zero => exact absurd hl (Nat.not_succ_le_zero _)
    | succ levels =>
      rw [Value.levels_map_le] at hl
      rw [Value.fits_map] at hf
      have hspells := @Spells.map levels (mapHead entries.length)
        (entries.map fun e => ((encode e.1, e.1.normal), (encode e.2, e.2.normal)))
        (by simpa using mapHead_announces hf.1)
        (List.forall_mem_map.2 fun e he => (ih e he).1 (hl e he).1 (hf.2 e he).1)
        (List.forall_mem_map.2 fun e he => (ih e he).2 (hl e he).2 (hf.2 e he).2)
      simpa [encode_map, List.flatMap_map, Function.comp_def] using hspells

/-- **A value that was written is read back**, in its normal form, when its lengths have a form
and the reader has levels enough. -/
theorem read_encode {v : Value} {levels : Nat} (hl : v.levels ≤ levels) (hf : v.fits = true)
    (rest : Octets) : read levels (encode v ++ rest) = some (v.normal, rest) := by
  rw [read_of_spells (spells_encode hl hf), Value.normal_normal]

end Msgpack

end Courier

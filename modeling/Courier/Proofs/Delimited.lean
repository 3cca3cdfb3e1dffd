import Courier.Header.Wire

/-!
# Readers that stop at the end of what they read

A reader takes a thing from the front of the octets and returns what follows it. It delimits
what it reads when it never looks past it: whatever follows, the same octets are read as the
same thing.

* `Delimits.append`: what is appended to the octets is appended to what follows the thing.
* `Delimits.truncated`: **nothing that is cut short is readable.** `Delimits.cut` says it of any
  beginning of a thing and what follows it.
* `delimits_read`, `delimits_record`: values and headers delimit themselves, at every width and
  in every form.
-/

namespace Courier

variable {α β : Type}

/-- A reader that never looks past what it takes. -/
structure Delimits (read : Octets → Option (α × Octets)) : Prop where
  taken : ∀ {b a rest}, read b = some (a, rest) →
    ∃ taken, b = taken ++ rest ∧ ∀ tail, read (taken ++ tail) = some (a, tail)

namespace Delimits

variable {read : Octets → Option (α × Octets)} {a : α} {b rest : Octets}

/-- What is appended to the octets is appended to what follows. -/
theorem append (h : Delimits read) (hb : read b = some (a, rest)) (tail : Octets) :
    read (b ++ tail) = some (a, rest ++ tail) := by
  obtain ⟨taken, rfl, htaken⟩ := h.taken hb
  rw [List.append_assoc, htaken]

/-- **Nothing that is cut short is readable.** -/
theorem truncated (h : Delimits read) (hb : read b = some (a, [])) {p : Octets} (hp : p <+: b)
    (hne : p ≠ b) : read p = none := by
  obtain ⟨q, rfl⟩ := hp
  cases hread : read p with
  | none => rfl
  | some result =>
    -- Otherwise what is cut off would follow the thing.
    obtain ⟨a', rest'⟩ := result
    have hq := h.append hread q
    rw [hb] at hq
    simp only [Option.some.injEq, Prod.mk.injEq, List.nil_eq, List.append_eq_nil_iff] at hq
    rw [hq.2.2, List.append_nil] at hne
    exact absurd rfl hne

/-- What begins a thing and whatever follows it either ends inside the thing, and is unreadable,
or holds the thing and the beginning of what follows. -/
theorem cut (h : Delimits read) {front : Octets}
    (hfront : ∀ tail, read (front ++ tail) = some (a, tail)) {p : Octets} (hp : p <+: front ++ rest) :
    (p.length < front.length ∧ read p = none) ∨
      ∃ q, p = front ++ q ∧ q <+: rest ∧ read p = some (a, q) := by
  have hthing := hfront []
  rw [List.append_nil] at hthing
  rcases Nat.lt_or_ge p.length front.length with hlt | hge
  · have hprefix : p <+: front :=
      List.prefix_of_prefix_length_le hp (List.prefix_append front rest) (Nat.le_of_lt hlt)
    have hne : p ≠ front := by
      rintro rfl
      exact Nat.lt_irrefl _ hlt
    exact .inl ⟨hlt, h.truncated hthing hprefix hne⟩
  · obtain ⟨q, rfl⟩ := List.prefix_of_prefix_length_le (List.prefix_append front rest) hp hge
    exact .inr ⟨q, rfl, (List.prefix_append_right_inj front).1 hp, hfront q⟩

/-! ## Building readers -/

theorem pure (a : α) : Delimits fun b => some (a, b) where
  taken h := by
    cases h
    exact ⟨[], rfl, fun _ => rfl⟩

theorem none : Delimits fun _ => (.none : Option (α × Octets)) where
  taken h := nomatch h

/-- Something that is found without reading. -/
theorem ofOption (o : Option α) : Delimits fun b => o.map (·, b) := by
  cases o with
  | none => exact .none
  | some a => exact .pure a

theorem ite {first second : Octets → Option (α × Octets)} {c : Prop} [Decidable c]
    (h : Delimits first) (h' : Delimits second) :
    Delimits fun b => if c then first b else second b := by
  by_cases hc : c
  · simpa only [if_pos hc] using h
  · simpa only [if_neg hc] using h'

/-- One reader after another. -/
theorem bind {next : α × Octets → Option (β × Octets)} (h : Delimits read)
    (hnext : ∀ a, Delimits fun rest => next (a, rest)) : Delimits fun b => (read b).bind next where
  taken hb := by
    obtain ⟨⟨a, middle⟩, ha, hc⟩ := Option.bind_eq_some_iff.1 hb
    obtain ⟨taken, rfl, htaken⟩ := h.taken ha
    obtain ⟨taken', rfl, htaken'⟩ := (hnext a).taken hc
    refine ⟨taken ++ taken', (List.append_assoc _ _ _).symm, fun tail => ?_⟩
    rw [List.append_assoc, htaken, Option.bind_some, htaken']

/-- What is read is made into something else. -/
theorem map {f : α × Octets → β × Octets} (h : Delimits read)
    (hf : ∀ a, ∃ c, ∀ rest, f (a, rest) = (c, rest)) : Delimits fun b => (read b).map f where
  taken hb := by
    obtain ⟨⟨a, rest⟩, ha, hc⟩ := Option.map_eq_some_iff.1 hb
    obtain ⟨c, hf⟩ := hf a
    obtain ⟨rfl, rfl⟩ := Prod.mk.inj ((hf rest).symm.trans hc)
    obtain ⟨taken, rfl, htaken⟩ := h.taken ha
    exact ⟨taken, rfl, fun tail => by rw [htaken, Option.map_some, hf]⟩

end Delimits

/-! ## Octets -/

theorem delimits_split? (n : Nat) : Delimits (Octets.split? n) where
  taken h := by
    obtain ⟨rfl, hlength⟩ := Octets.split?_eq_some_iff.1 h
    exact ⟨_, rfl, fun tail => Octets.split?_eq_some_iff.2 ⟨rfl, hlength⟩⟩

theorem delimits_nat? (width : Nat) : Delimits (Octets.nat? width) :=
  (delimits_split? width).map fun _ => ⟨_, fun _ => rfl⟩

/-! ## Values -/

namespace Msgpack

theorem delimits_size (size : Size) : Delimits size.read? := by
  cases size with
  | stated n => exact .pure n
  | field width => exact delimits_nat? width

theorem delimits_sized (size : Size) : Delimits size.octets? :=
  (delimits_size size).bind delimits_split?

theorem delimits_int (head : Head) : Delimits head.int? := by
  cases head with
  | immediate i => exact .ofOption _
  | unsigned width | signed width => exact (delimits_nat? width).bind fun n => .ofOption _
  | _ => exact .none

theorem delimits_collect {item : Octets → Option (α × Octets)} (h : Delimits item) (done : List α)
    (n : Nat) : Delimits (collect item done n) := by
  induction n generalizing done with
  | zero => exact .pure done.reverse
  | succ n ih =>
    have heq : collect item done (n + 1) = fun b =>
        (item b).bind fun r => collect item (r.1 :: done) n r.2 := by
      funext b
      rw [collect]
      cases item b <;> rfl
    rw [heq]
    exact h.bind fun a => ih (a :: done)

theorem delimits_entry {item : Octets → Option (Value × Octets)} (h : Delimits item) :
    Delimits (readEntry item) :=
  h.bind fun _ => h.map fun _ => ⟨_, fun _ => rfl⟩

theorem delimits_value (head : Head) {item : Option (Octets → Option (Value × Octets))}
    (h : ∀ reader ∈ item, Delimits reader) : Delimits (head.value? item) := by
  cases head with
  | nil => exact .pure Value.nil
  | bool v => exact .pure (Value.bool v)
  | immediate | unsigned | signed => exact (delimits_int _).map fun _ => ⟨_, fun _ => rfl⟩
  | float32 | float64 => exact (delimits_nat? _).map fun _ => ⟨_, fun _ => rfl⟩
  | text size | binary size => exact (delimits_sized size).map fun _ => ⟨_, fun _ => rfl⟩
  | extension size =>
    cases item with
    | none => exact .none
    | some reader =>
      refine (delimits_size size).bind fun n => (delimits_split? (n + 1)).bind fun octets => ?_
      cases octets with
      | nil => exact .none
      | cons type octets => exact .pure _
  | array size =>
    cases item with
    | none => exact .none
    | some reader =>
      exact (delimits_size size).bind fun n =>
        (delimits_collect (h reader rfl) [] n).map fun _ => ⟨_, fun _ => rfl⟩
  | map size =>
    cases item with
    | none => exact .none
    | some reader =>
      exact (delimits_size size).bind fun n =>
        (delimits_collect (delimits_entry (h reader rfl)) [] n).map fun _ => ⟨_, fun _ => rfl⟩

end Msgpack

namespace Record

theorem delimits_head : Delimits head? where
  taken {b head rest} hb := by
    cases b with
    | nil => cases hb
    | cons octet b =>
      obtain ⟨head', hhead, heq⟩ := Option.map_eq_some_iff.1 hb
      cases heq
      exact ⟨[octet], rfl, fun tail => by rw [List.singleton_append, head?, hhead, Option.map_some]⟩

end Record

namespace Msgpack

open Record (head? delimits_head)

/-- A value is a head and what the head announces. -/
theorem readWith_eq (item : Option (Octets → Option (Value × Octets))) (b : Octets) :
    readWith item b = (head? b).bind fun r => r.1.value? item r.2 := by
  cases b with
  | nil => rfl
  | cons octet b =>
    rw [readWith, head?]
    cases Head.ofOctet? octet <;> rfl

theorem delimits_readWith {item : Option (Octets → Option (Value × Octets))}
    (h : ∀ reader ∈ item, Delimits reader) : Delimits (readWith item) := by
  rw [funext (readWith_eq item)]
  exact delimits_head.bind fun head => delimits_value head h

/-- **A value ends where it ends**, whatever follows it. -/
theorem delimits_read (levels : Nat) : Delimits (read levels) := by
  induction levels with
  | zero => exact delimits_readWith nofun
  | succ levels ih =>
    refine delimits_readWith fun reader hreader => ?_
    cases hreader
    exact ih

@[simp] theorem read_nil (levels : Nat) : read levels [] = none := by
  cases levels <;> rfl

end Msgpack

/-! ## Headers -/

namespace Record

open Msgpack (delimits_size delimits_sized delimits_int delimits_read maxLevels)

theorem delimits_nat (bits : Nat) : Delimits (readNat bits) := by
  refine delimits_head.bind fun head => (delimits_int head).bind fun i => ?_
  dsimp only
  cases i.toNat? with
  | none => exact .none
  | some n => exact .ite (.pure n) .none

theorem delimits_text : Delimits readText := by
  refine delimits_head.bind fun head => ?_
  cases head with
  | text size | binary size => exact (delimits_sized size).bind fun octets => .ofOption _
  | _ => exact .none

theorem readOptional_cons (item : Octets → Option (α × Octets)) (octet : UInt8) (b : Octets) :
    readOptional item (octet :: b) =
      if octet = 0xC0 then some (none, b) else (item (octet :: b)).map fun r => (some r.1, r.2) := by
  unfold readOptional
  split
  · rename_i h
    obtain ⟨rfl, rfl⟩ := List.cons.inj h
    rw [if_pos rfl]
  · rename_i hne
    rw [if_neg fun h => hne b (by rw [h])]

/-- Looking for nil does not look past a thing that takes at least an octet. -/
theorem delimits_optional {item : Octets → Option (α × Octets)} (h : Delimits item)
    (hnil : item [] = none) : Delimits (readOptional item) where
  taken {b a rest} hb := by
    cases b with
    | nil =>
      rw [readOptional, hnil] at hb
      cases hb
      exact nofun
    | cons octet b =>
      rw [readOptional_cons] at hb
      split at hb
      · rename_i hoctet
        cases hb
        refine ⟨[octet], rfl, fun tail => ?_⟩
        rw [List.singleton_append, readOptional_cons, if_pos hoctet]
      · rename_i hoctet
        obtain ⟨⟨a, rest⟩, ha, heq⟩ := Option.map_eq_some_iff.1 hb
        cases heq
        obtain ⟨taken, htaken, hread⟩ := h.taken ha
        -- The octet that is looked at belongs to the thing.
        cases taken with
        | nil =>
          have hempty := hread []
          rw [List.append_nil, hnil] at hempty
          cases hempty
        | cons octet' taken =>
          obtain ⟨rfl, rfl⟩ := List.cons.inj htaken
          refine ⟨octet :: taken, rfl, fun tail => ?_⟩
          rw [List.cons_append, readOptional_cons, if_neg hoctet, ← List.cons_append, hread,
            Option.map_some]

theorem delimits_field (d : Draft) (field : Field) : Delimits (readField d field) := by
  unfold readField
  cases d.knows field with
  | true => exact .none
  | false =>
    cases field with
    | version => exact (delimits_nat 32).map fun _ => ⟨_, fun _ => rfl⟩
    | kind => exact (delimits_nat 8).map fun _ => ⟨_, fun _ => rfl⟩
    | reqSeq => exact (delimits_optional (delimits_nat 64) rfl).map fun _ => ⟨_, fun _ => rfl⟩
    | uri | method => exact (delimits_optional delimits_text rfl).map fun _ => ⟨_, fun _ => rfl⟩

theorem delimits_key : Delimits readKey := by
  refine delimits_head.bind fun head => ?_
  cases head with
  | text size | binary size => exact (delimits_sized size).map fun _ => ⟨_, fun _ => rfl⟩
  | immediate i => exact .ite (.pure _) .none
  | unsigned width => exact (delimits_nat? width).map fun _ => ⟨_, fun _ => rfl⟩
  | _ => exact .none

theorem delimits_entry (d : Draft) : Delimits (readEntry d) := by
  refine delimits_key.bind fun field => ?_
  cases field with
  | none => exact (delimits_read _).map fun _ => ⟨_, fun _ => rfl⟩
  | some field => exact delimits_field d field

theorem delimits_entries (d : Draft) (n : Nat) : Delimits fun b => readEntries d n b := by
  induction n generalizing d with
  | zero => exact .pure d
  | succ n ih =>
    have heq : (fun b => readEntries d (n + 1) b) = fun b =>
        (readEntry d b).bind fun r => readEntries r.1 n r.2 := by
      funext b
      rw [readEntries]
      cases readEntry d b <;> rfl
    rw [heq]
    exact (delimits_entry d).bind fun d => ih d

theorem delimits_fields (d : Draft) (fields : List Field) :
    Delimits fun b => readFields d fields b := by
  induction fields generalizing d with
  | nil => exact .pure d
  | cons field fields ih => exact (delimits_field d field).bind fun d => ih d

/-- **A header ends where it ends**, whatever form it has and whatever follows it. -/
theorem delimits_record : Delimits read? := by
  have hfinish (d : Draft) : Delimits fun rest => d.finish?.map (·, rest) := .ofOption _
  refine delimits_head.bind fun head => ?_
  cases head with
  | map size =>
    exact (delimits_size size).bind fun n => (delimits_entries .empty n).bind hfinish
  | array size =>
    refine (delimits_size size).bind fun n => ?_
    exact .ite ((delimits_fields .empty (Field.all.take n)).bind hfinish) .none
  | binary size =>
    refine (delimits_sized size).bind fun octets => ?_
    match octets with
    | [version, kind] => exact .pure _
    | [] | [_] | _ :: _ :: _ :: _ => exact .none
  | _ => exact .none

end Record

end Courier

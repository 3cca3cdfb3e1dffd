import Courier.Json.Shape
import Courier.Number.Widening
import Courier.Reply

/-!
# Contents that are read as documents

A content has a document if nothing in it is a mere string of octets. The document says what the
content does, except that an object has its keys in order and each of them once, and that a float
which is no number is null. So it does not matter in which order a map has its entries.

* `Stands`: **which document stands for a value.**
* `ofValue?_of_stands`, `ofValue?_eq_none_iff`: the reader finds the document that stands for a
  value, and it finds none exactly if the value is not plain.
* `Value.Rearranged`: values that differ in the order of entries only.
* `coerce_exact`: **which contents are read as documents, and as which.**
-/

namespace Courier

/-- **A document stands for a value.** A float keeps its number; one that has none is null. An object
has its keys in order, and under each of them what stands for the last value that the map has
there. -/
inductive Stands : Value → Json → Prop where
  | nil : Stands .nil .null
  | bool (b : Bool) : Stands (.bool b) (.bool b)
  | int (i : WireInt) : Stands (.int i) (.int i)
  | float32 {bits : UInt32} (h : Binary.single.isFinite bits.toNat = true) :
    Stands (.float32 bits) (.float (widen bits))
  | noNumber32 {bits : UInt32} (h : Binary.single.isFinite bits.toNat = false) :
    Stands (.float32 bits) .null
  | float64 {bits : UInt64} (h : Binary.double.isFinite bits.toNat = true) :
    Stands (.float64 bits) (.float bits)
  | noNumber64 {bits : UInt64} (h : Binary.double.isFinite bits.toNat = false) :
    Stands (.float64 bits) .null
  | text (s : String) : Stands (.ofString s) (.text s)
  | array {items : List Value} (document : Value → Json)
    (h : ∀ item ∈ items, Stands item (document item)) :
    Stands (.array items) (.array (items.map document))
  | map {entries : List (String × Value)} {fields : List (String × Json)} (document : Value → Json)
    (h : ∀ entry ∈ entries, Stands entry.2 (document entry.2))
    (hsorted : fields.Pairwise fun a b => a.1 < b.1)
    (hlast : ∀ key, fields.lookup key = (entries.reverse.lookup key).map document) :
    Stands (.map (entries.map fun entry => (.ofString entry.1, entry.2))) (.object fields)

/-- Values that differ in the order of the entries of maps, at any depth, where the keys of a map
are distinct. -/
inductive Value.Rearranged : Value → Value → Prop where
  | refl (v : Value) : Rearranged v v
  | trans {u v w : Value} (h : Rearranged u v) (h' : Rearranged v w) : Rearranged u w
  | item {v w : Value} (front back : List Value) (h : Rearranged v w) :
    Rearranged (.array (front ++ v :: back)) (.array (front ++ w :: back))
  | value {v w : Value} (front back : List (Value × Value)) (key : Value) (h : Rearranged v w) :
    Rearranged (.map (front ++ (key, v) :: back)) (.map (front ++ (key, w) :: back))
  | entries {es es' : List (Value × Value)} (hnodup : (es.map (·.1)).Nodup) (h : es.Perm es') :
    Rearranged (.map es) (.map es')

/-- An object has something under a key. -/
def Json.HasKey (key : String) (j : Json) : Prop :=
  ∃ fields, j = .object fields ∧ key ∈ fields.map (·.1)

variable {v w : Value} {j : Json}

/-! ## The document of a value -/

/-- **The reader finds the document that stands for a value.** -/
theorem ofValue?_of_stands (h : Stands v j) : Json.ofValue? v = some j := by
  induction h with
  | nil | bool | int => rfl
  | float32 h | noNumber32 h => simp [Json.ofValue?, Json.ofFloat, isFinite_widen, h]
  | float64 h | noNumber64 h => simp [Json.ofValue?, Json.ofFloat, h]
  | text s => simp [Value.ofString, Json.ofValue?]
  | array document h ih =>
    have hitems := Json.ofItems?_map ih
    rw [List.map_id'] at hitems
    rw [Json.ofValue?, hitems]
    rfl
  | map document h hsorted hlast ih =>
    rw [Json.ofValue?, Json.ofEntries?_map ih, Option.map_some, Json.ofEntries]
    refine congrArg (some ∘ Json.object) (Json.eq_of_lookup_eq ?_ hsorted fun key => ?_)
    · exact Json.pairwise_sortEntries _
    · rw [Json.lookup_sortEntries, hlast, ← List.map_reverse, lookup_map]

/-- One document at most stands for a value. -/
theorem Stands.unique {j' : Json} (h : Stands v j) (h' : Stands v j') : j = j' :=
  Option.some.inj ((ofValue?_of_stands h).symm.trans (ofValue?_of_stands h'))

/-- **A document stands for every plain value.** -/
theorem exists_stands (hk : v.isKeyed = true) (hp : v.isPlain = true) : ∃ j, Stands v j := by
  induction v with
  | nil => exact ⟨_, .nil⟩
  | bool b => exact ⟨_, .bool b⟩
  | int i => exact ⟨_, .int i⟩
  | float32 bits =>
    cases h : Binary.single.isFinite bits.toNat with
    | true => exact ⟨_, .float32 h⟩
    | false => exact ⟨_, .noNumber32 h⟩
  | float64 bits =>
    cases h : Binary.double.isFinite bits.toNat with
    | true => exact ⟨_, .float64 h⟩
    | false => exact ⟨_, .noNumber64 h⟩
  | text octets =>
    obtain ⟨s, hs⟩ := Value.isWord_iff.1 (show (Value.text octets).isWord = true from hp)
    rw [hs]
    exact ⟨_, .text s⟩
  | binary | extension => cases hp
  | array items ih =>
    rw [Value.isKeyed_array] at hk
    rw [Value.isPlain_array] at hp
    -- A choice of a document for each value is the function that `Stands` asks for.
    choose! document hdocument using fun v hv => ih v hv (hk v hv) (hp v hv)
    exact ⟨_, .array document hdocument⟩
  | map entries ih =>
    rw [Value.isKeyed_map] at hk
    rw [Value.isPlain_map] at hp
    have hvalues : ∀ v ∈ entries.map (·.2), ∃ j, Stands v j :=
      List.forall_mem_map.2 fun e he => (ih e he).2 (hk e he).2 (hp e he).2
    choose! document hdocument using hvalues
    obtain ⟨named, rfl⟩ := Value.exists_named fun e he => (hk e he).1
    rw [List.map_map] at hdocument
    let fields := Json.sortEntries (named.map fun e => (e.1, document e.2))
    refine ⟨.object fields, .map document (List.forall_mem_map.1 hdocument) ?_ fun key => ?_⟩
    · exact Json.pairwise_sortEntries _
    · rw [Json.lookup_sortEntries, ← List.map_reverse, lookup_map]

/-- **The reader finds no document of a value that is not plain.** -/
theorem isPlain_of_ofValue? (hk : v.isKeyed = true) (h : Json.ofValue? v = some j) :
    v.isPlain = true := by
  induction v generalizing j with
  | text octets =>
    obtain ⟨s, hs, -⟩ := Option.map_eq_some_iff.1 h
    exact Option.isSome_iff_exists.2 ⟨s, hs⟩
  | binary | extension => cases h
  | array items ih =>
    rw [Value.isKeyed_array] at hk
    rw [Json.ofValue?, Json.ofItems?_eq] at h
    split at h
    · rename_i hall
      refine Value.isPlain_array.2 fun v hv => ?_
      obtain ⟨j, hj⟩ := Option.isSome_iff_exists.1 (List.all_eq_true.1 hall v hv)
      exact ih v hv (hk v hv) hj
    · cases h
  | map entries ih =>
    rw [Value.isKeyed_map] at hk
    rw [Json.ofValue?, Json.ofEntries?_eq [] fun e he => (hk e he).1] at h
    split at h
    · rename_i hall
      refine Value.isPlain_map.2 fun e he => ⟨Value.isPlain_of_isWord (hk e he).1, ?_⟩
      obtain ⟨field, hfield⟩ := Option.isSome_iff_exists.1 (List.all_eq_true.1 hall e he)
      exact (ih e he).2 (hk e he).2 (Json.member?_eq_some_iff.1 hfield).2
    · cases h
  | _ => rfl

theorem ofValue?_eq_none_iff (hk : v.isKeyed = true) :
    Json.ofValue? v = none ↔ v.isPlain = false := by
  constructor
  · refine fun h => Bool.eq_false_iff.2 fun hp => ?_
    obtain ⟨j, hj⟩ := exists_stands hk hp
    cases h.symm.trans (ofValue?_of_stands hj)
  · refine fun h => Option.eq_none_iff_forall_ne_some.2 fun j hj => ?_
    cases h.symm.trans (isPlain_of_ofValue? hk hj)

/-! ## Rearranged values -/

namespace Value.Rearranged

theorem isContainer_eq (h : v.Rearranged w) : v.isContainer = w.isContainer := by
  induction h with
  | trans _ _ ih ih' => exact ih.trans ih'
  | _ => rfl

theorem isKeyed_iff (h : v.Rearranged w) : v.isKeyed = true ↔ w.isKeyed = true := by
  induction h with
  | refl => exact Iff.rfl
  | trans _ _ ih ih' => exact ih.trans ih'
  | item front back _ ih =>
    simp only [isKeyed_array, List.forall_mem_append, List.forall_mem_cons, ih]
  | value front back key _ ih =>
    simp only [isKeyed_map, List.forall_mem_append, List.forall_mem_cons, ih]
  | entries _ h => simp only [isKeyed_map, h.mem_iff]

/-- **The order of entries with distinct keys does not matter to the document of a value.** -/
theorem ofValue?_eq (h : v.Rearranged w) (hk : v.isKeyed = true) :
    Json.ofValue? w = Json.ofValue? v := by
  induction h with
  | refl => rfl
  | trans h _ ih ih' => exact (ih' (h.isKeyed_iff.1 hk)).trans (ih hk)
  | item front back h ih =>
    rw [isKeyed_array, List.forall_mem_append, List.forall_mem_cons] at hk
    simp only [Json.ofValue?, Json.ofItems?_eq, List.all_append, List.all_cons,
      List.filterMap_append, List.filterMap_cons, ih hk.2.1]
  | @value v w front back key h ih =>
    have hk' := (value front back key h).isKeyed_iff.1 hk
    rw [isKeyed_map] at hk hk'
    -- The key is the same text on both sides, so the members agree where the values do.
    have hmember : Json.member? (key, w) = Json.member? (key, v) := by
      rw [Json.member?, Json.member?, ih (hk _ (List.mem_append_right _ List.mem_cons_self)).2]
    simp only [Json.ofValue?, Json.ofEntries?_eq [] fun e he => (hk e he).1,
      Json.ofEntries?_eq [] fun e he => (hk' e he).1, List.all_append, List.all_cons,
      List.filterMap_append, List.filterMap_cons, hmember]
  | entries hnodup h =>
    have hk' := (entries hnodup h).isKeyed_iff.1 hk
    rw [isKeyed_map] at hk hk'
    -- Distinct keys are distinct names, and then sorting forgets the order that they came in.
    have hsort := Json.sortEntries_eq_of_perm (Json.nodup_filterMap_member? hnodup)
      (h.filterMap Json.member?)
    rw [Json.ofValue?, Json.ofValue?, Json.ofEntries?_eq [] fun e he => (hk e he).1,
      Json.ofEntries?_eq [] fun e he => (hk' e he).1, h.all_eq]
    split
    · simp only [Option.map_some, List.reverse_nil, List.nil_append, Json.ofEntries, hsort]
    · rfl

end Value.Rearranged

/-! ## Replies -/

theorem Json.isSome_field?_iff {key : String} : (j.field? key).isSome = true ↔ j.HasKey key := by
  cases j with
  | object fields =>
    rw [Json.field?, lookup_isSome_iff]
    exact ⟨fun h => ⟨fields, rfl, h⟩, fun ⟨_, heq, h⟩ => Json.object.inj heq ▸ h⟩
  | _ => simp [Json.field?, Json.HasKey]

/-- What a container is read as depends on its document alone. -/
theorem coerce_of_isContainer (hc : v.isContainer = true) (seq : ReqSeq) :
    Reply.coerce seq .json v = match Json.ofValue? v with
      | none => .error (.protocol .notJsonShaped (some seq))
      | some j => if (j.field? "error").isSome then .error (.errorReply j) else .ok (.json j) := by
  have hdocument : documentOf seq v = shapedAs seq v := by
    cases v with
    | array | map => rfl
    | _ => cases hc
  rw [Reply.coerce, hdocument, shapedAs]
  cases Json.ofValue? v <;> rfl

/-- **Which contents are read as documents, and as which.** An array or a map whose keys are all
texts is read unless there is a binary, an extension or a text that is not UTF-8 somewhere in it;
then the error names the request. The document is the one that stands for the content, and it is an
error if it has the key `error`. The order of entries with distinct keys matters neither to this nor
to what an exception with the content stands for. -/
theorem coerce_exact (seq : ReqSeq) (hc : v.isContainer = true) (hk : v.isKeyed = true) :
    ((∃ fault, Reply.coerce seq .json v = .error (.protocol fault (some seq))) ↔
      v.isPlain = false) ∧
    (v.isPlain = true → ∃! j, Stands v j) ∧
    (∀ j, Stands v j →
      (Reply.coerce seq .json v = .error (.errorReply j) ↔ j.HasKey "error") ∧
      (¬ j.HasKey "error" → Reply.coerce seq .json v = .ok (.json j) ∧ Reply.status = 200)) ∧
    ∀ w, v.Rearranged w →
      Reply.coerce seq .json w = Reply.coerce seq .json v ∧
      Error.ofException seq w = Error.ofException seq v := by
  refine ⟨?_, ?_, ?_, ?_⟩
  · rw [coerce_of_isContainer hc, ← ofValue?_eq_none_iff hk]
    cases Json.ofValue? v with
    | none => exact ⟨fun _ => rfl, fun _ => ⟨_, rfl⟩⟩
    | some j =>
      dsimp only
      split <;> simp
  · intro hplain
    obtain ⟨j, hstands⟩ := exists_stands hk hplain
    exact ⟨j, hstands, fun j' h => h.unique hstands⟩
  · intro j hstands
    rw [coerce_of_isContainer hc, ofValue?_of_stands hstands, ← Json.isSome_field?_iff]
    by_cases hkey : (j.field? "error").isSome = true
    · simp only [if_pos hkey]
      exact ⟨⟨fun _ => hkey, fun _ => trivial⟩, fun hno => absurd hkey hno⟩
    · simp only [if_neg hkey]
      exact ⟨⟨nofun, fun h => absurd h hkey⟩, fun _ => ⟨trivial, rfl⟩⟩
  · intro w hw
    have hvalue := hw.ofValue?_eq hk
    refine ⟨?_, ?_⟩
    · rw [coerce_of_isContainer hc, coerce_of_isContainer (hw.isContainer_eq ▸ hc), hvalue]
    · rw [Error.ofException, Error.ofException, shapedAs, shapedAs, hvalue]

/-- A content has two entries under `error`, the last of them nil, floats that are no numbers, and a
map in it that may as well be the other way round. Of the same with a binary in it there is no
document. -/
theorem coerce_exact_scattered :
    let inner : List (Value × Value) := [(.ofString "y", .array [.float64 0x7FF0000000000000]),
      (.ofString "x", .nil)]
    let content (v : Value) : Value := .map [(.ofString "error", .map inner), (.ofString "m", v),
      (.ofString "a", .float32 0x7FC00000), (.ofString "error", .nil)]
    let document : Json := .object [("x", .null), ("y", .array [.null])]
    let j : Json := .object [("a", .null), ("error", .null), ("m", document)]
    let raw : Value := .array [content (.map inner), content (.binary [])]
    ((content (.map inner)).isContainer = true ∧ (content (.map inner)).isKeyed = true) ∧
      Reply.coerce 7 .json (content (.map inner)) = .error (.errorReply j) ∧
      Reply.coerce 7 .json (content (.map inner.reverse)) = .error (.errorReply j) ∧
      (raw.isContainer = true ∧ raw.isKeyed = true) ∧
      ∃ fault, Reply.coerce 7 .json raw = .error (.protocol fault (some 7)) := by
  intro inner content document j raw
  have hkeyed : (content (.map inner)).isKeyed = true := by decide +kernel
  have hraw : raw.isKeyed = true := by decide +kernel
  have hinner : Stands (.map inner) document := by
    refine @Stands.map [("y", .array [.float64 0x7FF0000000000000]), ("x", .nil)] _
      (fun v => if v.isContainer then .array [.null] else .null) ?_ (by decide) fun key => ?_
    · refine List.forall_mem_cons.2 ⟨?_, List.forall_mem_singleton.2 .nil⟩
      exact .array (fun _ => .null) (List.forall_mem_singleton.2 (.noNumber64 (by decide)))
    · cases hx : key == "x" <;> cases hy : key == "y" <;>
        simp [List.lookup_cons, hx, hy, Value.isContainer]
  have hstands : Stands (content (.map inner)) j := by
    refine @Stands.map [("error", .map inner), ("m", .map inner), ("a", .float32 0x7FC00000),
      ("error", .nil)] _ (fun v => if v.isContainer then document else .null) ?_ (by decide)
      fun key => ?_
    · simp only [List.forall_mem_cons]
      exact ⟨hinner, hinner, .noNumber32 (by decide), .nil, List.forall_mem_nil _⟩
    · by_cases he : key = "error"
      · subst he
        rfl
      · have he' : (key == "error") = false := beq_eq_false_iff_ne.2 he
        cases ha : key == "a" <;> cases hm : key == "m" <;>
          simp [List.lookup_cons, he', ha, hm, Value.isContainer]
  have hnodup : (inner.map (·.1)).Nodup := by
    have hne : Utf8.encode "y" ≠ Utf8.encode "x" := by decide +kernel
    simpa [inner, Value.ofString] using hne
  have hrearranged : (content (.map inner)).Rearranged (content (.map inner.reverse)) :=
    .value [(.ofString "error", .map inner)] [(.ofString "a", .float32 0x7FC00000),
      (.ofString "error", .nil)] _ (.entries hnodup inner.reverse_perm.symm)
  have h := coerce_exact 7 rfl hkeyed
  have hreply := (h.2.2.1 j hstands).1.2 ⟨_, rfl, by decide⟩
  exact ⟨⟨rfl, hkeyed⟩, hreply, (h.2.2.2 _ hrearranged).1.trans hreply, ⟨rfl, hraw⟩,
    (coerce_exact 7 rfl hraw).1.2 rfl⟩

end Courier

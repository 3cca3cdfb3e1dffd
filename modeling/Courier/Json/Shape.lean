import Courier.Json.Entries
import Courier.Msgpack.Shape
import Mathlib.Data.List.Basic

/-!
# The shape of documents

A document has no float that is not finite, and an object has each key once, in the order of the
keys. What the binary format asks of a document besides is what it asks of the value that stands for
it: a length in four octets.

* `Json.all` asks something of a document and of everything nested in it; `Json.isProper` and
  `Json.fits` are such conditions.
* `levels_toValue_le`, `fits_toValue`, `isTextual_toValue`: the value has the shape of its document.
* `ofItems?_eq`, `ofEntries?_eq`: items and entries are read if all of them are.
* `ofValue?_toValue`: **the value that stands for a document is read as that document.**
-/

namespace Courier.Json

/-- Documents are built from documents. -/
@[induction_eliminator]
theorem induction {motive : Json → Prop} (null : motive .null) (bool : ∀ b, motive (.bool b))
    (int : ∀ i, motive (.int i)) (float : ∀ bits, motive (.float bits))
    (text : ∀ s, motive (.text s))
    (array : ∀ items, (∀ j ∈ items, motive j) → motive (.array items))
    (object : ∀ entries, (∀ e ∈ entries, motive e.2) → motive (.object entries)) (j : Json) :
    motive j :=
  Json.rec (motive_1 := motive) (motive_2 := fun items => ∀ j ∈ items, motive j)
    (motive_3 := fun entries => ∀ e ∈ entries, motive e.2) (motive_4 := fun e => motive e.2)
    null bool int float text (fun items => array items) (fun entries => object entries)
    nofun (fun _ _ hj hjs => List.forall_mem_cons.2 ⟨hj, hjs⟩)
    nofun (fun _ _ he hes => List.forall_mem_cons.2 ⟨he, hes⟩) (fun _ _ hj => hj) j

mutual

/-- Whether a document and everything nested in it meet a condition. -/
def all (p : Json → Bool) : Json → Bool
  | .array items => p (.array items) && allItems p items
  | .object entries => p (.object entries) && allEntries p entries
  | j => p j

/-- Whether all items and everything nested in them meet a condition. -/
def allItems (p : Json → Bool) : List Json → Bool
  | [] => true
  | j :: js => j.all p && allItems p js

/-- Whether all documents of an object and everything nested in them meet a condition. -/
def allEntries (p : Json → Bool) : List (String × Json) → Bool
  | [] => true
  | (_, j) :: es => j.all p && allEntries p es

end

mutual

/-- How many arrays and objects are nested in a document. -/
def levels : Json → Nat
  | .array items => levelsOfItems items + 1
  | .object entries => levelsOfEntries entries + 1
  | _ => 0

/-- The greatest number of levels among items. -/
def levelsOfItems : List Json → Nat
  | [] => 0
  | j :: js => max j.levels (levelsOfItems js)

/-- The greatest number of levels among the documents of an object. -/
def levelsOfEntries : List (String × Json) → Nat
  | [] => 0
  | (_, j) :: es => max j.levels (levelsOfEntries es)

end

/-- Whether every float in a document is finite, and the keys of every object are in order, none of
them twice. -/
def isProper (j : Json) : Bool :=
  j.all fun
    | .float bits => Binary.double.isFinite bits.toNat
    | .object entries => (entries.map (·.1)).Pairwise (· < ·)
    | _ => true

/-- Whether four octets hold every length in a document. -/
def fits (j : Json) : Bool :=
  j.all fun
    | .text s => (Utf8.encode s).length < 2 ^ 32
    | .array items => items.length < 2 ^ 32
    | .object entries =>
      entries.length < 2 ^ 32 && entries.all fun e => (Utf8.encode e.1).length < 2 ^ 32
    | _ => true

/-- Whether a document is an array or an object. -/
def isContainer : Json → Bool
  | .array _ | .object _ => true
  | _ => false

/-! ## Conditions -/

variable {p : Json → Bool} {n : Nat} {j : Json} {items : List Json} {entries : List (String × Json)}

theorem allItems_eq (js : List Json) : allItems p js = js.all (·.all p) := by
  induction js with
  | nil => rfl
  | cons j js ih => rw [allItems, ih, List.all_cons]

theorem allEntries_eq (es : List (String × Json)) : allEntries p es = es.all (·.2.all p) := by
  induction es with
  | nil => rfl
  | cons e es ih => rw [allEntries, ih, List.all_cons]

@[simp] theorem all_array :
    (array items).all p = true ↔ p (.array items) = true ∧ ∀ j ∈ items, j.all p = true := by
  rw [all, allItems_eq, Bool.and_eq_true, List.all_eq_true]

@[simp] theorem all_object :
    (object entries).all p = true ↔
      p (.object entries) = true ∧ ∀ e ∈ entries, e.2.all p = true := by
  rw [all, allEntries_eq, Bool.and_eq_true, List.all_eq_true]

/-- An array has a level more than its items. -/
theorem levels_array_le : (array items).levels ≤ n + 1 ↔ ∀ j ∈ items, j.levels ≤ n := by
  rw [levels, Nat.add_le_add_iff_right]
  induction items with
  | nil => simp [levelsOfItems]
  | cons j js ih => rw [levelsOfItems, Nat.max_le, ih, List.forall_mem_cons]

/-- An object has a level more than its documents. -/
theorem levels_object_le : (object entries).levels ≤ n + 1 ↔ ∀ e ∈ entries, e.2.levels ≤ n := by
  rw [levels, Nat.add_le_add_iff_right]
  induction entries with
  | nil => simp [levelsOfEntries]
  | cons e es ih => rw [levelsOfEntries, Nat.max_le, ih, List.forall_mem_cons]

/-! ## The value of a document -/

theorem toItems_eq (done : List Value) (js : List Json) :
    toItems done js = done.reverse ++ js.map toValue := by
  induction js generalizing done with
  | nil => simp [toItems]
  | cons j js ih => simp [toItems, ih]

theorem toEntries_eq (done : List (Value × Value)) (es : List (String × Json)) :
    toEntries done es = done.reverse ++ es.map fun e => (.ofString e.1, e.2.toValue) := by
  induction es generalizing done with
  | nil => simp [toEntries]
  | cons e es ih => simp [toEntries, ih]

@[simp] theorem toValue_array (items : List Json) :
    (array items).toValue = .array (items.map toValue) := by
  simp [toValue, toItems_eq]

@[simp] theorem toValue_object (entries : List (String × Json)) :
    (object entries).toValue = .map (entries.map fun e => (.ofString e.1, e.2.toValue)) := by
  simp [toValue, toEntries_eq]

theorem isContainer_toValue (j : Json) : j.toValue.isContainer = j.isContainer := by
  cases j with
  | array items => rw [toValue_array]; rfl
  | object entries => rw [toValue_object]; rfl
  | _ => rfl

/-- The value has as many levels as its document. -/
theorem levels_toValue_le (j : Json) : j.toValue.levels ≤ n ↔ j.levels ≤ n := by
  induction j generalizing n with
  | array items ih =>
    cases n with
    | zero => simp [Value.levels, levels]
    | succ n =>
      rw [toValue_array, Value.levels_array_le, List.forall_mem_map, levels_array_le]
      exact forall₂_congr fun j hj => ih j hj
  | object entries ih =>
    cases n with
    | zero => simp [Value.levels, levels]
    | succ n =>
      rw [toValue_object, Value.levels_map_le, List.forall_mem_map, levels_object_le]
      refine forall₂_congr fun e he => ?_
      simp [ih e he, Value.ofString, Value.levels]
  | _ => simp [toValue, Value.levels, levels, Value.ofString]

/-- Every text of the value is UTF-8. -/
theorem isTextual_toValue (j : Json) : j.toValue.isTextual = true := by
  induction j with
  | array items ih =>
    rw [toValue_array, Value.isTextual_array, List.forall_mem_map]
    exact ih
  | object entries ih =>
    rw [toValue_object, Value.isTextual_map, List.forall_mem_map]
    exact fun e he => ⟨Value.isTextual_ofString e.1, ih e he⟩
  | text s => exact Value.isTextual_ofString s
  | _ => rfl

/-- Every length of the value is one of the document. -/
theorem fits_toValue (h : j.fits = true) : j.toValue.fits = true := by
  induction j with
  | array items ih =>
    rw [fits, all_array] at h
    rw [toValue_array, Value.fits_array, List.length_map, List.forall_mem_map]
    exact ⟨by simpa using h.1, fun j hj => ih j hj (h.2 j hj)⟩
  | object entries ih =>
    rw [fits, all_object, Bool.and_eq_true, List.all_eq_true] at h
    obtain ⟨⟨hlength, hkeys⟩, hdocuments⟩ := h
    rw [toValue_object, Value.fits_map, List.length_map, List.forall_mem_map]
    refine ⟨by simpa using hlength, fun e he => ⟨?_, ih e he (hdocuments e he)⟩⟩
    simpa [Value.ofString] using hkeys e he
  | text s => simpa [toValue, Value.ofString, fits, all] using h
  | _ => rfl

/-! ## The document of a value -/

/-- The member of an object that an entry of a map under a text stands for. -/
def member? (e : Value × Value) : Option (String × Json) :=
  (key? true e.1).bind fun key => (ofValue? e.2).map (key, ·)

theorem member?_eq_some_iff {e : Value × Value} {field : String × Json} :
    member? e = some field ↔ e.1 = .ofString field.1 ∧ ofValue? e.2 = some field.2 := by
  obtain ⟨key, v⟩ := e
  cases key with
  | text octets =>
    simp only [member?, key?, Option.bind_eq_some_iff, Option.map_eq_some_iff, Value.ofString,
      Value.text.injEq]
    constructor
    · rintro ⟨key, hkey, j, hj, rfl⟩
      exact ⟨(Utf8.encode_of_decode? hkey).symm, hj⟩
    · rintro ⟨rfl, hj⟩
      exact ⟨field.1, Utf8.decode?_encode _, field.2, hj, rfl⟩
  | _ => simp [member?, key?, Value.ofString]

/-- Distinct words are distinct keys. -/
theorem nodup_filterMap_member? {es : List (Value × Value)} (h : (es.map (·.1)).Nodup) :
    ((es.filterMap member?).map (·.1)).Nodup := by
  refine List.pairwise_map.2 (List.Pairwise.filterMap member? ?_ (List.pairwise_map.1 h))
  intro e e' hne field hfield field' hfield' heq
  refine hne ?_
  rw [(member?_eq_some_iff.1 hfield).1, (member?_eq_some_iff.1 hfield').1, heq]

/-- Items are read if all of them are. -/
theorem ofItems?_eq (done : List Json) (vs : List Value) :
    ofItems? done vs =
      if vs.all fun v => (ofValue? v).isSome then some (done.reverse ++ vs.filterMap ofValue?)
      else none := by
  induction vs generalizing done with
  | nil => simp [ofItems?]
  | cons v vs ih => cases hv : ofValue? v <;> simp [ofItems?, hv, ih]

/-- A word is a key wherever it stands. -/
theorem key?_of_isWord {v : Value} (h : v.isWord = true) (first : Bool) :
    key? first v = key? true v := by
  cases v with
  | binary => cases h
  | _ => rfl

/-- Entries under words are read if the values of all of them are. -/
theorem ofEntries?_eq (done : List (String × Json)) {es : List (Value × Value)}
    (h : ∀ e ∈ es, e.1.isWord = true) :
    ofEntries? done es =
      if es.all fun e => (member? e).isSome then some (done.reverse ++ es.filterMap member?)
      else none := by
  induction es generalizing done with
  | nil => simp [ofEntries?]
  | cons e es ih =>
    rw [List.forall_mem_cons] at h
    obtain ⟨key, hkey⟩ := Value.isWord_iff.1 h.1
    have hdone : key? done.isEmpty e.1 = some key := by
      rw [key?_of_isWord h.1, hkey]
      exact Utf8.decode?_encode key
    rw [ofEntries?, hdone, List.all_cons, List.filterMap_cons]
    cases hv : ofValue? e.2 with
    | none =>
      have hmember : member? e = none := by simp [member?, hv]
      rw [hmember]
      rfl
    | some j =>
      have hmember : member? e = some (key, j) := member?_eq_some_iff.2 ⟨hkey, hv⟩
      rw [hmember, Option.isSome_some, Bool.true_and]
      simp [ih _ h.2]

theorem ofItems?_map {β : Type} {xs : List β} {f : β → Value} {g : β → Json}
    (h : ∀ x ∈ xs, ofValue? (f x) = some (g x)) : ofItems? [] (xs.map f) = some (xs.map g) := by
  have hall : (xs.map f).all (fun v => (ofValue? v).isSome) = true := by
    rw [List.all_map, List.all_eq_true]
    exact fun x hx => Option.isSome_iff_exists.2 ⟨g x, h x hx⟩
  rw [ofItems?_eq, if_pos hall, List.filterMap_map]
  exact congrArg some (List.filterMap_eq_map_iff_forall_eq_some.2 h)

theorem ofEntries?_map {β : Type} {xs : List β} {key : β → String} {f : β → Value} {g : β → Json}
    (h : ∀ x ∈ xs, ofValue? (f x) = some (g x)) :
    ofEntries? [] (xs.map fun x => (.ofString (key x), f x)) =
      some (xs.map fun x => (key x, g x)) := by
  have hwords : ∀ e ∈ xs.map fun x => (Value.ofString (key x), f x), e.1.isWord = true :=
    List.forall_mem_map.2 fun x _ => Value.isWord_iff.2 ⟨key x, rfl⟩
  have hmember : ∀ x ∈ xs, member? (.ofString (key x), f x) = some (key x, g x) :=
    fun x hx => member?_eq_some_iff.2 ⟨rfl, h x hx⟩
  have hall : (xs.map fun x => (Value.ofString (key x), f x)).all (fun e => (member? e).isSome) =
      true := by
    rw [List.all_map, List.all_eq_true]
    exact fun x hx => Option.isSome_iff_exists.2 ⟨_, hmember x hx⟩
  rw [ofEntries?_eq [] hwords, if_pos hall, List.filterMap_map]
  exact congrArg some (List.filterMap_eq_map_iff_forall_eq_some.2 hmember)

/-- **The value that stands for a document is read as that document.** -/
theorem ofValue?_toValue (h : j.isProper = true) : ofValue? j.toValue = some j := by
  induction j with
  | float bits =>
    have hfinite : Binary.double.isFinite bits.toNat = true := h
    simp [toValue, ofValue?, ofFloat, hfinite]
  | text s => simp [toValue, Value.ofString, ofValue?]
  | array items ih =>
    rw [isProper, all_array] at h
    rw [toValue_array, ofValue?, ofItems?_map fun j hj => ih j hj (h.2 j hj), List.map_id']
    rfl
  | object entries ih =>
    rw [isProper, all_object, decide_eq_true_eq, List.pairwise_map] at h
    rw [toValue_object, ofValue?, ofEntries?_map fun e he => ih e he (h.2 e he), List.map_id',
      Option.map_some, ofEntries, sortEntries_of_pairwise h.1]
  | _ => rfl

end Courier.Json

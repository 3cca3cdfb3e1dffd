import Courier.Msgpack.Value

/-!
# The shape of values

What the format asks of a value, and what it makes of one. A length is written in four octets
at most, and there is no form for a text that is not UTF-8: such a text becomes a binary.

* `Value.all` asks something of a value and of everything nested in it.
* `Value.fits`, `Value.isTextual`: every length has a form, every text is UTF-8.
* `Value.isKeyed`, `Value.isPlain`: every key is a text, nothing is a mere string of octets.
* `Value.normal` is the value as it comes back; `normal_of_isTextual`: **nothing but texts that
  are not UTF-8 comes back as something else.**
-/

namespace Courier.Value

/-- Values are built from values. -/
@[induction_eliminator]
theorem induction {motive : Value → Prop} (nil : motive .nil) (bool : ∀ b, motive (.bool b))
    (int : ∀ i, motive (.int i)) (float32 : ∀ bits, motive (.float32 bits))
    (float64 : ∀ bits, motive (.float64 bits)) (text : ∀ octets, motive (.text octets))
    (binary : ∀ octets, motive (.binary octets))
    (extension : ∀ type octets, motive (.extension type octets))
    (array : ∀ items, (∀ v ∈ items, motive v) → motive (.array items))
    (map : ∀ entries, (∀ e ∈ entries, motive e.1 ∧ motive e.2) → motive (.map entries))
    (v : Value) : motive v :=
  Value.rec (motive_1 := motive) (motive_2 := fun items => ∀ v ∈ items, motive v)
    (motive_3 := fun entries => ∀ e ∈ entries, motive e.1 ∧ motive e.2)
    (motive_4 := fun e => motive e.1 ∧ motive e.2)
    nil bool int float32 float64 text binary extension
    (fun items => array items) (fun entries => map entries)
    nofun (fun _ _ hv hvs => List.forall_mem_cons.2 ⟨hv, hvs⟩)
    nofun (fun _ _ he hes => List.forall_mem_cons.2 ⟨he, hes⟩) (fun _ _ hk hv => ⟨hk, hv⟩) v

mutual

/-- Whether a value and everything nested in it meet a condition. -/
def all (p : Value → Bool) : Value → Bool
  | .array items => p (.array items) && allItems p items
  | .map entries => p (.map entries) && allEntries p entries
  | v => p v

/-- Whether all items and everything nested in them meet a condition. -/
def allItems (p : Value → Bool) : List Value → Bool
  | [] => true
  | v :: vs => v.all p && allItems p vs

/-- Whether all keys and values and everything nested in them meet a condition. -/
def allEntries (p : Value → Bool) : List (Value × Value) → Bool
  | [] => true
  | (k, v) :: es => k.all p && v.all p && allEntries p es

end

/-- The number that the format writes in front of a value, where it writes one. -/
def length : Value → Nat
  | .text octets | .binary octets | .extension _ octets => octets.length
  | .array items => items.length
  | .map entries => entries.length
  | _ => 0

/-- Whether four octets hold every length in a value. -/
def fits (v : Value) : Bool :=
  v.all fun w => w.length < 2 ^ 32

/-- Whether every text in a value is UTF-8. -/
def isTextual (v : Value) : Bool :=
  v.all fun
    | .text octets => Utf8.isText octets
    | _ => true

/-- Whether a value is an array or a map. -/
def isContainer : Value → Bool
  | .array _ | .map _ => true
  | _ => false

/-- Whether a value is a text that is UTF-8. -/
def isWord : Value → Bool
  | .text octets => Utf8.isText octets
  | _ => false

/-- Whether the keys of every map in a value are texts that are UTF-8. -/
def isKeyed (v : Value) : Bool :=
  v.all fun
    | .map entries => entries.all fun e => e.1.isWord
    | _ => true

/-- Whether there is no binary, no extension and no text that is not UTF-8 in a value. -/
def isPlain (v : Value) : Bool :=
  v.all fun
    | .text octets => Utf8.isText octets
    | .binary _ | .extension _ _ => false
    | _ => true

mutual

/-- The value that is read back: each text that is not UTF-8 is a binary of the same octets. -/
def normal : Value → Value
  | .text octets => if Utf8.isText octets then .text octets else .binary octets
  | .array items => .array (normalItems items)
  | .map entries => .map (normalEntries entries)
  | v => v

/-- The items as they are read back. -/
def normalItems : List Value → List Value
  | [] => []
  | v :: vs => v.normal :: normalItems vs

/-- The entries as they are read back, in their order. -/
def normalEntries : List (Value × Value) → List (Value × Value)
  | [] => []
  | (k, v) :: es => (k.normal, v.normal) :: normalEntries es

end

/-! ## Conditions -/

variable {p : Value → Bool} {n : Nat}

theorem allItems_eq (vs : List Value) : allItems p vs = vs.all (·.all p) := by
  induction vs with
  | nil => rfl
  | cons v vs ih => rw [allItems, ih, List.all_cons]

theorem allEntries_eq (es : List (Value × Value)) :
    allEntries p es = es.all fun e => e.1.all p && e.2.all p := by
  induction es with
  | nil => rfl
  | cons e es ih => rw [allEntries, ih, List.all_cons]

@[simp] theorem all_array {items : List Value} :
    (array items).all p = true ↔ p (.array items) = true ∧ ∀ v ∈ items, v.all p = true := by
  rw [all, allItems_eq, Bool.and_eq_true, List.all_eq_true]

@[simp] theorem all_map {entries : List (Value × Value)} :
    (map entries).all p = true ↔
      p (.map entries) = true ∧ ∀ e ∈ entries, e.1.all p = true ∧ e.2.all p = true := by
  simp only [all, allEntries_eq, Bool.and_eq_true, List.all_eq_true]

@[simp] theorem fits_array {items : List Value} :
    (array items).fits = true ↔ items.length < 2 ^ 32 ∧ ∀ v ∈ items, v.fits = true := by
  simp only [fits, all_array, decide_eq_true_eq]
  rfl

@[simp] theorem fits_map {entries : List (Value × Value)} :
    (map entries).fits = true ↔
      entries.length < 2 ^ 32 ∧ ∀ e ∈ entries, e.1.fits = true ∧ e.2.fits = true := by
  simp only [fits, all_map, decide_eq_true_eq]
  rfl

@[simp] theorem fits_text {octets : Octets} :
    (text octets).fits = true ↔ octets.length < 2 ^ 32 := by
  simp only [fits, all, decide_eq_true_eq]
  rfl

@[simp] theorem fits_binary {octets : Octets} :
    (binary octets).fits = true ↔ octets.length < 2 ^ 32 := by
  simp only [fits, all, decide_eq_true_eq]
  rfl

@[simp] theorem fits_extension {type : Int8} {octets : Octets} :
    (extension type octets).fits = true ↔ octets.length < 2 ^ 32 := by
  simp only [fits, all, decide_eq_true_eq]
  rfl

@[simp] theorem isTextual_array {items : List Value} :
    (array items).isTextual = true ↔ ∀ v ∈ items, v.isTextual = true := by
  simp only [isTextual, all_array, true_and]

@[simp] theorem isTextual_map {entries : List (Value × Value)} :
    (map entries).isTextual = true ↔
      ∀ e ∈ entries, e.1.isTextual = true ∧ e.2.isTextual = true := by
  simp only [isTextual, all_map, true_and]

@[simp] theorem isTextual_ofString (s : String) : (ofString s).isTextual = true := by
  simp [isTextual, ofString, all, Utf8.isText]

/-- Only a text is a word. -/
theorem isWord_iff {v : Value} : v.isWord = true ↔ ∃ s, v = ofString s := by
  constructor
  · intro h
    cases v with
    | text octets =>
      obtain ⟨s, hs⟩ := Option.isSome_iff_exists.1 h
      exact ⟨s, congrArg text (Utf8.encode_of_decode? hs).symm⟩
    | _ => cases h
  · rintro ⟨s, rfl⟩
    simp [isWord, ofString, Utf8.isText]

theorem isPlain_of_isWord {v : Value} (h : v.isWord = true) : v.isPlain = true := by
  cases v with
  | text octets => exact h
  | _ => cases h

/-- Entries under words are entries under names. -/
theorem exists_named {es : List (Value × Value)} (h : ∀ e ∈ es, e.1.isWord = true) :
    ∃ named : List (String × Value), es = named.map fun e => (ofString e.1, e.2) := by
  induction es with
  | nil => exact ⟨[], rfl⟩
  | cons e es ih =>
    rw [List.forall_mem_cons] at h
    obtain ⟨name, hname⟩ := isWord_iff.1 h.1
    obtain ⟨named, rfl⟩ := ih h.2
    exact ⟨(name, e.2) :: named, by rw [List.map_cons, ← hname]⟩

@[simp] theorem isKeyed_array {items : List Value} :
    (array items).isKeyed = true ↔ ∀ v ∈ items, v.isKeyed = true := by
  simp only [isKeyed, all_array, true_and]

@[simp] theorem isKeyed_map {entries : List (Value × Value)} :
    (map entries).isKeyed = true ↔ ∀ e ∈ entries, e.1.isWord = true ∧ e.2.isKeyed = true := by
  simp only [isKeyed, all_map, List.all_eq_true]
  constructor
  · exact fun h e he => ⟨h.1 e he, (h.2 e he).2⟩
  · refine fun h => ⟨fun e he => (h e he).1, fun e he => ⟨?_, (h e he).2⟩⟩
    obtain ⟨s, hs⟩ := isWord_iff.1 (h e he).1
    rw [hs]
    rfl

@[simp] theorem isPlain_array {items : List Value} :
    (array items).isPlain = true ↔ ∀ v ∈ items, v.isPlain = true := by
  simp only [isPlain, all_array, true_and]

@[simp] theorem isPlain_map {entries : List (Value × Value)} :
    (map entries).isPlain = true ↔ ∀ e ∈ entries, e.1.isPlain = true ∧ e.2.isPlain = true := by
  simp only [isPlain, all_map, true_and]

/-! ## Levels -/

theorem levelsOfItems_le {most : Nat} (vs : List Value) :
    levelsOfItems most vs ≤ n ↔ most ≤ n ∧ ∀ v ∈ vs, v.levels ≤ n := by
  induction vs generalizing most with
  | nil => simp [levelsOfItems]
  | cons v vs ih =>
    rw [levelsOfItems, ih, List.forall_mem_cons, Nat.max_le, and_assoc]

theorem levelsOfEntries_le {most : Nat} (es : List (Value × Value)) :
    levelsOfEntries most es ≤ n ↔ most ≤ n ∧ ∀ e ∈ es, e.1.levels ≤ n ∧ e.2.levels ≤ n := by
  induction es generalizing most with
  | nil => simp [levelsOfEntries]
  | cons e es ih =>
    rw [levelsOfEntries, ih, List.forall_mem_cons, Nat.max_le, Nat.max_le, and_assoc, and_assoc,
      and_assoc]

/-- An array has a level more than its items. -/
theorem levels_array_le {items : List Value} :
    (array items).levels ≤ n + 1 ↔ ∀ v ∈ items, v.levels ≤ n := by
  rw [levels, Nat.add_le_add_iff_right, levelsOfItems_le]
  simp

/-- A map has a level more than its keys and values. -/
theorem levels_map_le {entries : List (Value × Value)} :
    (map entries).levels ≤ n + 1 ↔ ∀ e ∈ entries, e.1.levels ≤ n ∧ e.2.levels ≤ n := by
  rw [levels, Nat.add_le_add_iff_right, levelsOfEntries_le]
  simp

/-! ## Normal forms -/

theorem normalItems_eq (vs : List Value) : normalItems vs = vs.map normal := by
  induction vs with
  | nil => rfl
  | cons v vs ih => rw [normalItems, ih, List.map_cons]

theorem normalEntries_eq (es : List (Value × Value)) :
    normalEntries es = es.map fun e => (e.1.normal, e.2.normal) := by
  induction es with
  | nil => rfl
  | cons e es ih => rw [normalEntries, ih, List.map_cons]

@[simp] theorem normal_array (items : List Value) :
    (array items).normal = .array (items.map normal) := by
  rw [normal, normalItems_eq]

@[simp] theorem normal_map (entries : List (Value × Value)) :
    (map entries).normal = .map (entries.map fun e => (e.1.normal, e.2.normal)) := by
  rw [normal, normalEntries_eq]

/-- **A value whose texts are all UTF-8 comes back as it was.** -/
theorem normal_of_isTextual {v : Value} (h : v.isTextual = true) : v.normal = v := by
  induction v with
  | text octets =>
    simp only [isTextual, all] at h
    rw [normal, if_pos h]
  | array items ih =>
    rw [isTextual_array] at h
    rw [normal_array, List.map_congr_left fun v hv => ih v hv (h v hv), List.map_id']
  | map entries ih =>
    rw [isTextual_map] at h
    have hentry : ∀ e ∈ entries, (e.1.normal, e.2.normal) = e := by
      intro e he
      rw [(ih e he).1 (h e he).1, (ih e he).2 (h e he).2]
    rw [normal_map, List.map_congr_left hentry, List.map_id']
  | _ => rfl

/-- What comes back has only texts that are UTF-8. -/
theorem isTextual_normal (v : Value) : v.normal.isTextual = true := by
  induction v with
  | text octets =>
    rw [normal]
    split
    · rename_i htext
      exact htext
    · rfl
  | array items ih =>
    rw [normal_array, isTextual_array, List.forall_mem_map]
    exact ih
  | map entries ih =>
    rw [normal_map, isTextual_map, List.forall_mem_map]
    exact ih
  | _ => rfl

/-- Coming back once more changes nothing. -/
@[simp] theorem normal_normal (v : Value) : v.normal.normal = v.normal :=
  normal_of_isTextual v.isTextual_normal

/-- A text is read back as it was. -/
@[simp] theorem normal_ofString (s : String) : (ofString s).normal = ofString s := by
  simp [ofString, normal, Utf8.isText]

end Courier.Value

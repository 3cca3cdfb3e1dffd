/-!
# Looking up

A table is a list of entries, each a key with what stands under it. What is looked up is the first
entry of a key.

* `mem_iff_lookup`: **where every key stands once, an entry is in the table if it is found there.**
* `lookup_eq_of_perm`: then the order of the entries does not matter.
-/

namespace Courier

variable {κ α : Type} [BEq κ] [LawfulBEq κ] {es es' : List (κ × α)} {key : κ} {v : α}

theorem lookup_cons_ite (e : κ × α) (es : List (κ × α)) (key : κ) [Decidable (key = e.1)] :
    (e :: es).lookup key = if key = e.1 then some e.2 else es.lookup key := by
  rw [List.lookup_cons]
  by_cases hkey : key = e.1
  · simp [hkey]
  · have hne : (key == e.1) = false := by simpa using hkey
    rw [if_neg hkey, hne]

omit [LawfulBEq κ] in
/-- Entries of other keys do not matter. -/
theorem lookup_eq_filter (es : List (κ × α)) :
    es.lookup key = ((es.filter (key == ·.1)).map (·.2)).head? := by
  induction es with
  | nil => rfl
  | cons e es ih =>
    rw [List.lookup_cons, List.filter_cons]
    cases key == e.1 with
    | true => rfl
    | false => exact ih

omit [LawfulBEq κ] in
theorem lookup_map {β : Type} (f : α → β) (es : List (κ × α)) :
    (es.map fun e => (e.1, f e.2)).lookup key = (es.lookup key).map f := by
  simp only [lookup_eq_filter, List.filter_map, List.map_map, List.head?_map, Option.map_map,
    Function.comp_def]

theorem lookup_isSome_iff : (es.lookup key).isSome ↔ key ∈ es.map (·.1) := by
  induction es with
  | nil => simp
  | cons e es ih =>
    rw [List.lookup_cons, List.map_cons, List.mem_cons]
    cases hkey : key == e.1 with
    | true => simp [eq_of_beq hkey]
    | false => simp [ih, ne_of_beq_false hkey]

/-- **Where every key stands once, an entry is in the table if it is found there.** -/
theorem mem_iff_lookup (h : (es.map (·.1)).Nodup) : (key, v) ∈ es ↔ es.lookup key = some v := by
  induction es with
  | nil => simp
  | cons e es ih =>
    obtain ⟨hnot, hnodup⟩ := List.nodup_cons.1 h
    rw [List.lookup_cons, List.mem_cons]
    cases hkey : key == e.1 with
    | true =>
      obtain rfl := eq_of_beq hkey
      have habsent : (e.1, v) ∉ es := fun hmem => hnot (List.mem_map.2 ⟨_, hmem, rfl⟩)
      simp [habsent, Prod.ext_iff, eq_comm]
    | false =>
      have hne : (key, v) ≠ e := fun heq => ne_of_beq_false hkey (congrArg Prod.fst heq)
      simp [ih hnodup, hne]

/-- Where every key stands once, the order of the entries does not matter. -/
theorem lookup_eq_of_perm (hnodup : (es.map (·.1)).Nodup) (h : es.Perm es') :
    es.lookup key = es'.lookup key := by
  have hnodup' : (es'.map (·.1)).Nodup := (h.map _).nodup_iff.1 hnodup
  refine Option.ext fun v => ?_
  rw [← mem_iff_lookup hnodup, ← mem_iff_lookup hnodup', h.mem_iff]

end Courier

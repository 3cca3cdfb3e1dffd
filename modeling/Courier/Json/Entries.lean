import Courier.Json.Value
import Courier.Lookup

/-!
# The entries of an object

An object is made from entries that may come in any order and repeat their keys. They are sorted by
key, which leaves entries of one key in the order that they came in, and then all but the last of
each key are dropped.

* `pairwise_sortEntries`, `lookup_sortEntries`: **the keys are in order, and under each key stands
  the last entry of that key.**
* `eq_of_lookup_eq`: nothing else is in order and has the same under each key.
* `sortEntries_eq_of_perm`: **the order of entries with distinct keys does not matter.**
-/

namespace Courier.Json

variable {α : Type} {es es' : List (String × α)} {key : String}

/-! ## Order -/

theorem nodup_of_pairwise (h : es.Pairwise fun a b => a.1 < b.1) : (es.map (·.1)).Nodup :=
  List.pairwise_map.2 (h.imp fun {a b} hlt (heq : a.1 = b.1) => String.lt_irrefl _ (heq ▸ hlt))

/-- **Entries in the order of their keys are all that is found in them.** -/
theorem eq_of_lookup_eq (h : es.Pairwise fun a b => a.1 < b.1)
    (h' : es'.Pairwise fun a b => a.1 < b.1) (heq : ∀ key, es.lookup key = es'.lookup key) :
    es = es' := by
  have hnodup := nodup_of_pairwise h
  have hnodup' := nodup_of_pairwise h'
  have hentries {es : List (String × α)} (h : (es.map (·.1)).Nodup) : es.Nodup :=
    List.Pairwise.of_map _ (fun _ _ hne => mt (congrArg Prod.fst) hne) h
  have hperm : es.Perm es' := by
    refine (List.perm_ext_iff_of_nodup (hentries hnodup) (hentries hnodup')).2 fun e => ?_
    rw [mem_iff_lookup hnodup, mem_iff_lookup hnodup', heq]
  exact hperm.eq_of_pairwise (fun a b _ _ hab hba => absurd hba (String.lt_asymm hab)) h h'

/-! ## Keeping the last -/

theorem keepLast_eq (done es : List (String × α)) :
    keepLast done es = done.reverse ++ keepLast [] es := by
  induction es generalizing done with
  | nil => simp [keepLast]
  | cons e es ih =>
    cases es with
    | nil => simp [keepLast]
    | cons next rest =>
      rw [keepLast, keepLast]
      split
      · exact ih done
      · rw [ih (e :: done), ih [e]]
        simp

theorem keepLast_cons_cons (e next : String × α) (rest : List (String × α)) :
    keepLast [] (e :: next :: rest) =
      if e.1 = next.1 then keepLast [] (next :: rest) else e :: keepLast [] (next :: rest) := by
  rw [keepLast, keepLast_eq [e]]
  rfl

theorem keepLast_sublist (es : List (String × α)) : (keepLast [] es).Sublist es := by
  induction es with
  | nil => exact List.Sublist.refl _
  | cons e es ih =>
    cases es with
    | nil => exact List.Sublist.refl _
    | cons next rest =>
      rw [keepLast_cons_cons]
      split
      · exact ih.cons e
      · exact ih.cons_cons e

/-- A key that is not the next one is below all that follow. -/
theorem lt_of_pairwise {e next : String × α} {rest : List (String × α)}
    (h : (e :: next :: rest).Pairwise fun a b => a.1 ≤ b.1) (hne : e.1 ≠ next.1) :
    ∀ other ∈ next :: rest, e.1 < other.1 := by
  obtain ⟨he, hnext⟩ := List.pairwise_cons.1 h
  have hlt : e.1 < next.1 := Std.lt_of_le_of_ne (he next List.mem_cons_self) hne
  refine List.forall_mem_cons.2 ⟨hlt, fun other hother => ?_⟩
  exact Std.lt_of_lt_of_le hlt ((List.pairwise_cons.1 hnext).1 other hother)

theorem pairwise_keepLast (h : es.Pairwise fun a b => a.1 ≤ b.1) :
    (keepLast [] es).Pairwise fun a b => a.1 < b.1 := by
  induction es with
  | nil => exact .nil
  | cons e es ih =>
    cases es with
    | nil => exact List.pairwise_singleton _ _
    | cons next rest =>
      have hkept := ih (List.pairwise_cons.1 h).2
      rw [keepLast_cons_cons]
      split
      · exact hkept
      · rename_i hne
        refine List.pairwise_cons.2 ⟨fun other hother => ?_, hkept⟩
        exact lt_of_pairwise h hne other ((keepLast_sublist _).subset hother)

theorem lookup_keepLast (h : es.Pairwise fun a b => a.1 ≤ b.1) :
    (keepLast [] es).lookup key = es.reverse.lookup key := by
  induction es with
  | nil => rfl
  | cons e es ih =>
    cases es with
    | nil => rfl
    | cons next rest =>
      replace ih := ih (List.pairwise_cons.1 h).2
      rw [keepLast_cons_cons, List.reverse_cons, List.lookup_append, ← ih, lookup_cons_ite,
        List.lookup_nil]
      split
      · rename_i heq
        -- The entry has the key of the next one, so it is not the last one of any key.
        cases hkept : (keepLast [] (next :: rest)).lookup key with
        | some _ => rfl
        | none =>
          rw [ih, List.lookup_eq_none_iff] at hkept
          have hne := hkept next (List.mem_reverse.2 List.mem_cons_self)
          rw [if_neg (by simpa [heq] using hne)]
          rfl
      · rename_i hne
        have habsent : (keepLast [] (next :: rest)).lookup e.1 = none := by
          refine List.lookup_eq_none_iff.2 fun other hother => ?_
          have hlt := lt_of_pairwise h hne other ((keepLast_sublist _).subset hother)
          simpa using fun heq => String.lt_irrefl _ (heq ▸ hlt)
        rw [lookup_cons_ite]
        split
        · rename_i hkey
          rw [hkey, habsent]
          rfl
        · rw [Option.or_none]

/-! ## Sorting -/

theorem le_trans_of_not_lt (a b c : String × α) (hab : (!decide (b.1 < a.1)) = true)
    (hbc : (!decide (c.1 < b.1)) = true) : (!decide (c.1 < a.1)) = true := by
  simp only [Bool.not_eq_true', decide_eq_false_iff_not, String.not_lt] at *
  exact String.le_trans hab hbc

theorem le_total_of_not_lt (a b : String × α) :
    (!decide (b.1 < a.1) || !decide (a.1 < b.1)) = true := by
  simp only [Bool.or_eq_true, Bool.not_eq_true', decide_eq_false_iff_not, String.not_lt]
  exact String.le_total a.1 b.1

theorem pairwise_mergeSort (es : List (String × α)) :
    (es.mergeSort fun a b => !decide (b.1 < a.1)).Pairwise fun a b => a.1 ≤ b.1 := by
  refine (List.pairwise_mergeSort le_trans_of_not_lt le_total_of_not_lt es).imp fun h => ?_
  simpa only [Bool.not_eq_true', decide_eq_false_iff_not, String.not_lt] using h

/-- Sorting leaves the entries of a key in their order. -/
theorem filter_mergeSort (es : List (String × α)) :
    (es.mergeSort fun a b => !decide (b.1 < a.1)).filter (key == ·.1) = es.filter (key == ·.1) := by
  have hle : (es.filter (key == ·.1)).Pairwise fun a b => (!decide (b.1 < a.1)) = true := by
    refine List.pairwise_of_forall_mem_list fun a ha b hb => ?_
    rw [← eq_of_beq (List.mem_filter.1 ha).2, ← eq_of_beq (List.mem_filter.1 hb).2]
    simp
  have hsublist :=
    List.sublist_mergeSort le_trans_of_not_lt le_total_of_not_lt hle List.filter_sublist
  have hfilter := hsublist.filter (key == ·.1)
  rw [List.filter_filter] at hfilter
  simp only [Bool.and_self] at hfilter
  have hperm := (List.mergeSort_perm es fun a b => !decide (b.1 < a.1)).filter (key == ·.1)
  exact (hfilter.eq_of_length hperm.length_eq.symm).symm

theorem pairwise_sortEntries (es : List (String × α)) :
    (sortEntries es).Pairwise fun a b => a.1 < b.1 :=
  pairwise_keepLast (pairwise_mergeSort es)

/-- **Under each key stands the last entry of that key.** -/
theorem lookup_sortEntries (es : List (String × α)) :
    (sortEntries es).lookup key = es.reverse.lookup key := by
  rw [sortEntries, lookup_keepLast (pairwise_mergeSort es), lookup_eq_filter, lookup_eq_filter,
    List.filter_reverse, List.filter_reverse, filter_mergeSort]

theorem sortEntries_of_pairwise (h : es.Pairwise fun a b => a.1 < b.1) : sortEntries es = es := by
  refine eq_of_lookup_eq (pairwise_sortEntries es) h fun key => ?_
  rw [lookup_sortEntries, lookup_eq_of_perm ?_ es.reverse_perm]
  exact (es.reverse_perm.map _).nodup_iff.2 (nodup_of_pairwise h)

/-- **The order of entries with distinct keys does not matter.** -/
theorem sortEntries_eq_of_perm (hnodup : (es.map (·.1)).Nodup) (h : es.Perm es') :
    sortEntries es = sortEntries es' := by
  refine eq_of_lookup_eq (pairwise_sortEntries es) (pairwise_sortEntries es') fun key => ?_
  have hreverse : es.reverse.Perm es'.reverse :=
    es.reverse_perm.trans (h.trans es'.reverse_perm.symm)
  rw [lookup_sortEntries, lookup_sortEntries, lookup_eq_of_perm ?_ hreverse]
  exact (es.reverse_perm.map _).nodup_iff.2 hnodup

end Courier.Json

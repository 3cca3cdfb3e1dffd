import Courier.Proofs.Link

/-!
# The order of transmission

The table lists its requests in the order in which they were last handed to a connection, as
the history has it. So the stamps, which only the table knows, can be forgotten.

* `unanswered_eq`: **the unanswered requests, by the history, are those of the table.**
-/

namespace Courier.Client

variable {c c' : Client} {e : Event} {α : Type} [DecidableEq α]

/-! ## Lists without repetition -/

/-- The last occurrence is the one that stays. -/
theorem dedup_concat (l : List α) (a : α) :
    (l ++ [a]).dedup = l.dedup.filter (· ≠ a) ++ [a] := by
  induction l with
  | nil => simp
  | cons b l ih =>
    by_cases hmem : b ∈ l
    · rw [List.cons_append, List.dedup_cons_of_mem (List.mem_append_left _ hmem), ih,
        List.dedup_cons_of_mem hmem]
    · rw [List.dedup_cons_of_notMem hmem]
      by_cases hab : b = a
      · rw [List.cons_append, List.dedup_cons_of_mem (by simp [hab]), ih,
          List.filter_cons_of_neg (by simpa using hab)]
      · rw [List.cons_append, List.dedup_cons_of_notMem (by simp [hmem, hab]), ih,
          List.filter_cons_of_pos (by simpa using hab), List.cons_append]

/-- Of a list without repetition, the elements of a sublist are that sublist. -/
theorem filter_mem_of_sublist {l l' : List α} (h : l.Sublist l') (hnd : l'.Nodup) :
    l'.filter (· ∈ l) = l := by
  induction h with
  | slnil => rfl
  | cons a hsub ih =>
    rw [List.nodup_cons] at hnd
    rw [List.filter_cons_of_neg (by simpa using fun hmem => hnd.1 (hsub.subset hmem)), ih hnd.2]
  | @cons_cons l l' a hsub ih =>
    rw [List.nodup_cons] at hnd
    rw [List.filter_cons_of_pos (by simp)]
    have hcongr : l'.filter (· ∈ a :: l) = l'.filter (· ∈ l) := by
      refine List.filter_congr fun b hb => ?_
      have hne : b ≠ a := fun heq => hnd.1 (heq ▸ hb)
      simp [hne]
    rw [hcongr, ih hnd.2]

/-! ## The table -/

/-- **The table grows by hand-overs only.** -/
theorem Transition.awaiting_cases (h : Transition c e c') (hv : c.outbox.Valid) :
    (c.hands e = none ∧ c'.outbox.awaiting.Sublist c.outbox.awaiting) ∨
    ∃ connection r, c.hands e = some (connection, r) ∧
      c'.outbox.awaiting = (c.outbox.markSent r).awaiting := by
  cases h with
  | quiet e jar session handlers held new hnew hr hm =>
    exact .inl ⟨hands_of_reaches hm.reaches, .refl _⟩
  | asked e command hc hs hm => exact .inl ⟨hands_of_reaches hm.reaches, .refl _⟩
  | queuedRotated | cleared | rotated => exact .inl ⟨hands_of_reaches rfl, List.nil_sublist _⟩
  | halted e rest hb he =>
    exact .inl ⟨hands_of_reaches he.passive.reaches, List.nil_sublist _⟩
  | ended e clean he =>
    refine .inl ⟨hands_of_reaches he.passive.reaches, ?_⟩
    show List.Sublist (Outbox.awaiting (if _ then _ else _)) _
    split
    · exact List.nil_sublist _
    · exact .refl _
  | answered b connection seq outcome r outbox hl hj ht =>
    obtain ⟨before, stamp, after, heq, rfl, -⟩ := hv.take?_eq_some ht
    refine .inl ⟨hands_of_reaches rfl, ?_⟩
    rw [heq]
    exact (List.Sublist.refl before).append (List.sublist_cons_self _ _)
  | drained connection hl hq => exact .inl ⟨by simp [hands, reaches, hl, hq], .refl _⟩
  | skipped connection r rest hl hq hc =>
    exact .inl ⟨by simp [hands, reaches, hl, hq, hc], .refl _⟩
  | handed connection r rest hl hq hc =>
    exact .inr ⟨connection, r, by simp [hands, reaches, hl, hq, hc], rfl⟩
  | _ => exact .inl ⟨hands_of_reaches rfl, .refl _⟩

/-- The requests of the table, in the order in which they were last handed over. -/
theorem Transition.transmitted (h : Transition c e c') (hv : c.outbox.Valid)
    (ht : (c.outbox.awaiting.map (·.2.request)).Sublist (c.handOvers.map (·.2)).dedup) :
    (c'.outbox.awaiting.map (·.2.request)).Sublist (c'.handOvers.map (·.2)).dedup := by
  rw [h.handOvers_eq]
  rcases h.awaiting_cases hv with ⟨hn, hsub⟩ | ⟨connection, r, hr, haw⟩
  · rw [hn, Option.toList_none, List.append_nil]
    exact (hsub.map _).trans ht
  · rw [hr, haw, Option.toList_some, List.map_append, List.map_singleton, dedup_concat,
      Outbox.markSent, List.map_append]
    refine List.Sublist.append ?_ (.refl _)
    -- What stays in the table is another request, whatever the numbers are.
    have hkeep : ((c.outbox.awaiting.filter fun e => e.1 ≠ r.seq).map (·.2.request)).Sublist
        ((c.outbox.awaiting.map (·.2.request)).filter (· ≠ r)) := by
      have hkeyed : c.outbox.awaiting.filter (fun e => e.1 ≠ r.seq)
          = c.outbox.awaiting.filter fun e => e.2.request.seq ≠ r.seq :=
        List.filter_congr fun entry he => by rw [hv.keyed entry he]
      rw [List.filter_map, hkeyed]
      refine (List.monotone_filter_right _ fun entry hne => ?_).map _
      simp only [ne_eq, decide_not, Bool.not_eq_true', decide_eq_false_iff_not,
        Function.comp_apply] at hne ⊢
      exact fun heq => hne (heq ▸ rfl)
    exact hkeep.trans (ht.filter _)

theorem reachable_transmitted (h : c.Reachable) :
    (c.outbox.awaiting.map (·.2.request)).Sublist (c.handOvers.map (·.2)).dedup := by
  have hboth := h.invariant (P := fun c => c.outbox.Valid ∧
      (c.outbox.awaiting.map (·.2.request)).Sublist (c.handOvers.map (·.2)).dedup)
    (fun _ _ _ => ⟨Outbox.valid_of_nil rfl, List.nil_sublist _⟩)
    fun hc ht => ⟨ht.valid hc.1, ht.transmitted hc.1 hc.2⟩
  exact hboth.2

/-- **The unanswered requests, by the history, are those of the table**, in its order. -/
theorem unanswered_eq (h : c.Reachable) :
    c.unanswered = c.outbox.awaiting.map (·.2.request) :=
  filter_mem_of_sublist (reachable_transmitted h) (List.nodup_dedup _)

end Courier.Client

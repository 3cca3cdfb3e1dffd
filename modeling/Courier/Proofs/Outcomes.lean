import Courier.Proofs.Conservation
import Courier.Proofs.Service

/-!
# The outcomes in the history

The history only grows, so a request that was settled stays settled. As long as no number is in use
twice, the outcome that is looked up is the only one that there is.

* `history_suffix_run`: what has happened has happened.
* `outcome?_eq_lookup`: the outcome of a request is the latest that was recorded.
* `Conserved.outcome_stays`: **an outcome is for good**, whatever happens afterwards.
-/

namespace Courier.Client

variable {c c' : Client} {e : Event} {n : ReqSeq} {o : Outcome} {issued : List ReqSeq} {given : Nat}

/-- What has happened has happened. -/
theorem Transition.history_suffix (h : Transition c e c') : c.history <:+ c'.history := by
  cases h with
  | halted e rest hb he =>
    show c.history <:+ _ ++ (_ ++ (_ ++ c.history))
    rw [← List.append_assoc, ← List.append_assoc]
    exact List.suffix_append _ _
  | quiet | cleared | rotated => exact List.suffix_append _ _
  | queuedRotated r rest session hl hi hc hs =>
    exact (List.suffix_cons _ _).trans (List.suffix_append _ _)
  | answered | queuedDialled => exact (List.suffix_cons _ _).trans (List.suffix_cons _ _)
  | numbered | reading | posted | forsaken | cancelled | asked | readPosted | drained =>
    exact List.suffix_rfl
  | _ => exact List.suffix_cons _ _

theorem history_suffix_run (c : Client) (es : List Event) : c.history <:+ (c.run es).history := by
  induction es generalizing c with
  | nil => exact List.suffix_rfl
  | cons e es ih => exact (step_transition c e).history_suffix.trans (ih (c.step e))

theorem settled_run {n : ReqSeq} (h : n ∈ c.numbersAt .settled) (es : List Event) :
    n ∈ (c.run es).numbersAt .settled :=
  ((history_suffix_run c es).sublist.filterMap _).subset h

/-- An outcome stays on record. -/
theorem outcomes_run (h : (n, o) ∈ c.outcomes) (es : List Event) : (n, o) ∈ (c.run es).outcomes :=
  ((history_suffix_run c es).sublist.filterMap _).subset h

theorem outcome?_quiet {new : List Occurrence} (h : ∀ o ∈ new, o.isQuiet) :
    new.filterMap Occurrence.outcome? = [] :=
  filterMap_quiet (fun o _ => by cases o <;> simp_all [Occurrence.isQuiet]) h

/-- Requests that fail together, each once. -/
theorem outcomes_failures (rs : List Request) (error : Error) :
    (failures rs error).filterMap Occurrence.outcome? =
      ((rs.map (·.seq)).map fun n => (n, .error error)).reverse := by
  have hsome : Occurrence.outcome? ∘ (fun r : Request => .settled r.seq (.error error))
      = some ∘ fun r => (r.seq, .error error) := rfl
  rw [failures, List.filterMap_reverse, List.filterMap_map, hsome, List.filterMap_eq_map,
    List.map_map]
  rfl

@[simp] theorem outcome?_closing (l : Link) : (closing l).filterMap Occurrence.outcome? = [] := by
  cases l <;> rfl

theorem map_fst_outcomes (c : Client) : c.outcomes.map (·.1) = c.numbersAt .settled := by
  rw [outcomes, List.map_filterMap]
  refine List.filterMap_congr fun o _ => ?_
  cases o <;> rfl

/-- The outcome of a request is the latest that was recorded. -/
theorem outcome?_eq_lookup (c : Client) (n : ReqSeq) : c.outcome? n = c.outcomes.lookup n := by
  unfold outcome? outcomes
  induction c.history with
  | nil => rfl
  | cons occurrence history ih =>
    cases occurrence with
    | settled m outcome =>
      by_cases hm : m = n
      · subst hm
        simp
      · have hne : (n == m) = false := by simpa using Ne.symm hm
        simp [List.lookup_cons, hm, hne, ih]
    | _ => simpa [List.filterMap_cons] using ih

theorem Conserved.nodup_at (h : Conserved issued given c) (p : Place) : (c.numbersAt p).Nodup :=
  List.nodup_iff_count_le_one.2 fun n => Nat.le_trans (count_le_tally c p n) (h.tally_le n)

/-- An outcome on record is the only one, so it is the one that is looked up. -/
theorem Conserved.outcome?_eq (h : Conserved issued given c) (ho : (n, o) ∈ c.outcomes) :
    c.outcome? n = some o := by
  have hnodup : (c.outcomes.map (·.1)).Nodup := map_fst_outcomes c ▸ h.nodup_at .settled
  rw [outcome?_eq_lookup]
  exact (mem_iff_lookup hnodup).1 ho

/-- **An outcome is for good**: no later event changes it, and the request is settled once. -/
theorem Conserved.outcome_stays {es : List Event} (h : Conserved issued given (c.run es))
    (ho : (n, o) ∈ c.outcomes) :
    (c.run es).outcome? n = some o ∧ ((c.run es).numbersAt .settled).count n = 1 := by
  have hlater := outcomes_run ho es
  refine ⟨h.outcome?_eq hlater, ?_⟩
  have hmem : n ∈ (c.run es).numbersAt .settled :=
    map_fst_outcomes (c.run es) ▸ List.mem_map.2 ⟨_, hlater, rfl⟩
  exact List.count_eq_one_of_mem (h.nodup_at .settled) hmem

end Courier.Client

import Courier.Proofs.Conservation
import Courier.Proofs.Service

/-!
# Serving the queue in one go

A connection that takes whatever it is handed moves the whole queue into the table.

* `serve_run`: **what the loop carries then awaits an answer.**
-/

namespace Courier.Client

variable {c : Client} {issued : List ReqSeq} {given : Nat}

/-- No two of the requests that the loop carries have the same number. -/
theorem Conserved.carried_nodup (h : Conserved issued given c) :
    (c.outbox.carried.map (·.seq)).Nodup := by
  rw [h.valid.map_seq_carried]
  refine List.nodup_iff_count_le_one.2 fun n => ?_
  have hone := h.tally_le n
  rw [Client.tally_eq] at hone
  rw [List.count_append]
  omega

/-- A connection takes so many requests, and the loop listens to it. -/
def serve : Nat → List Event
  | 0 => [.next]
  | n + 1 => .next :: .taken :: serve n

theorem mem_serve {e : Event} {n : Nat} (h : e ∈ serve n) : e = .next ∨ e = .taken := by
  induction n with
  | zero => exact .inl (by simpa [serve] using h)
  | succ n ih =>
    simp only [serve, List.mem_cons] at h
    rcases h with h | h | h
    · exact .inl h
    · exact .inr h
    · exact ih h

/-- **A connection that takes the whole queue** leaves it empty, with all that was carried in the
table. -/
theorem serve_run (n : Nat) {connection : Nat} (hl : c.link = .draining connection)
    (hq : c.outbox.queue.length = n) (hv : c.outbox.Valid)
    (hnd : (c.outbox.carried.map (·.seq)).Nodup) (hcancel : c.cancelled = []) :
    ∃ outbox new, c.run (serve n) = { c with
        outbox := outbox
        link := .opened connection
        history := new ++ c.history } ∧
      outbox.carried.Perm c.outbox.carried ∧ new.filterMap Occurrence.outcome? = [] := by
  induction n generalizing c with
  | zero =>
    have hempty : c.outbox.queue = [] := List.length_eq_zero_iff.1 hq
    have hstep : c.step .next = { c with link := .opened connection } := by
      simp [step, hl, drainNext, Outbox.pop?, hempty]
    exact ⟨c.outbox, [], by simpa [serve] using hstep, .refl _, rfl⟩
  | succ n ih =>
    obtain ⟨r, rest, hcons⟩ := List.exists_cons_of_length_eq_add_one hq
    have htwo : (c.step .next).step .taken = { c with
        outbox := { c.outbox with queue := rest }.markSent r
        link := .draining connection
        history := .taken connection r :: .handed connection r :: c.history } := by
      simp [step, hl, drainNext, Outbox.pop?, hcons, isCancelled, hcancel, note]
    have hperm := hv.perm_carried_markSent hnd hcons
    obtain ⟨outbox, new, hrun, hmoved, hquiet⟩ := ih (c := (c.step .next).step .taken)
      (by rw [htwo]) (by rw [htwo]; simpa [hcons] using hq)
      (by rw [htwo]; exact (hv.withQueue rest).markSent r)
      (by rw [htwo]; exact (hperm.map _).nodup_iff.2 hnd) (by rw [htwo]; exact hcancel)
    refine ⟨outbox, new ++ [.taken connection r, .handed connection r], ?_, ?_,
      by simpa using hquiet⟩
    · rw [serve, run_cons, run_cons, hrun, htwo]
      simp
    · rw [htwo] at hmoved
      exact hmoved.trans hperm

end Courier.Client

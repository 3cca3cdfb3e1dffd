import Courier.Proofs.Arrival
import Courier.Proofs.Replay

/-!
# Requests after a clean close

A clean close leaves the unanswered requests in the table. There they stay, but they are not
safe from being transmitted again: the next unclean end of an open connection takes the whole
table, whichever connection a request of it was handed to.

* `clean_close_replay`: **when a request that was unanswered at a clean close is handed over
  again.**
* `clean_close_transmits_again`: it does happen.
-/

namespace Courier.Client

variable {c c' : Client} {e : Event} {n : ReqSeq} {issued : List ReqSeq} {given : Nat}

/-! ## The way back to the queue -/

/-- **There are two ways into the queue**: out of the inbox, and by the unclean end of an open
connection. -/
theorem Transition.queued_cases (h : Transition c e c') (hs : c.Steady)
    (hold : n ∉ c.numbersAt .queued) (hnew : n ∈ c'.numbersAt .queued) :
    n ∈ c.numbersAt .posted ∨ (c.breaks e = true ∧ n ∈ c.numbersAt .awaiting) := by
  simp only [numbersAt] at hold hnew ⊢
  have hpushed : ∀ {r rest}, c.inbox = .enqueue r :: rest →
      n ∈ (c.outbox.push r).queue.map (·.seq) → n ∈ (requestsOf c.inbox).map (·.seq) := by
    intro r rest hi hmem
    rw [Outbox.push_queue, List.map_append, List.mem_append] at hmem
    rw [hi, requestsOf_enqueue, List.map_cons, List.mem_cons]
    exact .inl (by simpa using hmem.resolve_left hold)
  cases h with
  | queuedOpen r rest connection hl hi hc => exact .inl (hpushed hi hnew)
  | queuedLater r rest hl hi hc => exact .inl (hpushed hi hnew)
  | queuedDialled r rest session hl hi hc hcheck => exact .inl (hpushed hi hnew)
  | ended e clean he =>
    split at hnew
    · rename_i hunclean
      rw [hs.valid.map_seq_requeue] at hnew
      have hmem := (List.mem_append.1 hnew).resolve_right hold
      refine .inr ⟨?_, hmem⟩
      cases he with
      | refused cookies hl =>
        -- An attempt that fails first after an open finds the table empty.
        simp [hs.dialling cookies hl hunclean.1] at hmem
      | closed connection clean hl => simpa [breaks, hl] using hunclean.2
      | broken connection r hl => simp [breaks, hl]
    · exact absurd hnew hold
  | skipped connection r rest hl hq hc | handed connection r rest hl hq hc =>
    refine absurd ?_ hold
    rw [hq]
    exact List.mem_cons_of_mem _ hnew
  | queuedRotated | cleared | halted | rotated => simp at hnew
  | answered b connection seq outcome r outbox hl hj ht =>
    obtain ⟨before, stamp, after, heq, rfl, -⟩ := hs.valid.take?_eq_some ht
    exact absurd hnew hold
  | _ => exact absurd hnew hold

/-- **Only the unclean end of an open connection** brings an unanswered request back. -/
theorem Conserved.broken_of_queued {es : List Event} (h : Conserved issued given c)
    (hr : c.Reachable) (hlt : given + (c.along allocates es).length < 2 ^ 64)
    (hn : n ∈ c.numbersAt .awaiting) (hqueued : n ∈ (c.run es).numbersAt .queued) :
    ∃ a e b, es = a ++ e :: b ∧ (c.run a).breaks e = true ∧
      n ∈ (c.run a).numbersAt .awaiting := by
  have hout : ∀ p, p ≠ .awaiting → n ∉ c.numbersAt p := fun p hp hmem =>
    hp (h.not_two_places hmem hn)
  have hpos : 0 < c.tally n := by
    have := count_le_tally c .awaiting n
    have := List.count_pos_iff.2 hn
    omega
  have hzero : c.arriving n = 0 := by
    rw [arriving, List.count_eq_zero.2 (hout .reading (by decide)),
      List.count_eq_zero.2 (hout .posted (by decide))]
  obtain ⟨a, e, b, rfl, hold, hnew⟩ := exists_first
    (P := fun c => n ∈ c.numbersAt .queued) (hout .queued (by decide)) hqueued
  have hsteady := reachable_steady (hr.run a)
  rw [along_append, List.length_append] at hlt
  have hnone : (c.run a).arriving n = 0 := h.arriving_run (by omega) hpos hzero
  rcases (step_transition _ e).queued_cases hsteady hold hnew with hposted | hbroken
  · have hcount := List.count_pos_iff.2 hposted
    rw [arriving] at hnone
    omega
  · exact ⟨a, e, b, rfl, hbroken⟩

/-! ## The way out again -/

theorem run_cancelled (hn : n ∈ c.cancelled) (es : List Event) : n ∈ (c.run es).cancelled :=
  run_keeps (P := fun c => n ∈ c.cancelled) (fun hn ht => by
    cases ht with
    | cancelled seq => exact List.mem_cons_of_mem _ hn
    | _ => exact hn) hn es

/-- A request that is reached is handed over, unless nobody waits for it any more. -/
theorem reaches_cases {r : Request} {waited : Bool} (h : c.reaches e = some (r, waited)) :
    (∃ connection, c.hands e = some (connection, r)) ∨ r.seq ∈ c.cancelled := by
  unfold reaches at h
  split at h
  · split at h
    · rename_i connection hl
      obtain ⟨q, hq, heq⟩ := Option.map_eq_some_iff.1 h
      cases heq
      cases hc : c.isCancelled r.seq with
      | true => exact .inr (by simpa [isCancelled] using hc)
      | false => exact .inl ⟨connection, hands_eq_some_iff.2 ⟨rfl, hl, hq, hc⟩⟩
    · cases h
  · cases h

/-- **An unanswered request is handed over again** once a new connection took the whole queue,
if somebody still waits for it. -/
theorem Reconnects.handed {es ds : List Event} (h : Reconnects c e es ds) (hc : c.Reachable)
    (hn : n ∈ c.numbersAt .awaiting)
    (hopen : ((((c.step e).run es).step .connected).run ds).link
      = .opened ((c.step e).run es).connections)
    (hwaited : n ∉ ((((c.step e).run es).step .connected).run ds).cancelled) :
    ∃ q ∈ (((c.step e).run es).step .connected).handedIn ds, q.2.seq = n := by
  have hreached := (h.replayed hc).complete hopen
  obtain ⟨entry, hmem, rfl⟩ := List.mem_map.1 hn
  have hseq := (reachable_valid hc).keyed entry hmem
  have hentry : entry.2.request ∈ c.unanswered := by
    rw [unanswered_eq hc]
    exact List.mem_map.2 ⟨entry, hmem, rfl⟩
  have hr : entry.2.request ∈
      ((((c.step e).run es).step .connected).along reaches ds).map (·.1) := by
    rw [hreached]
    exact List.mem_append_left _ (List.mem_append_left _ hentry)
  obtain ⟨⟨r, waited⟩, hq, rfl⟩ := List.mem_map.1 hr
  obtain ⟨before, e', after, rfl, hreaches⟩ := mem_along.1 hq
  rcases reaches_cases hreaches with ⟨connection, hhands⟩ | hcancelled
  · refine ⟨(connection, entry.2.request), ?_, hseq.symm⟩
    rw [handedIn_eq]
    exact mem_along.2 ⟨before, e', after, rfl, hhands⟩
  · -- A request that was cancelled when it was reached is cancelled for good.
    rw [run_append] at hwaited
    exact absurd (run_cancelled (hseq ▸ hcancelled) _) hwaited

/-! ## Clean closes -/

/-- **When a request that was unanswered at a clean close is handed over again.** The close
itself moves nothing. The request is handed over again only after an open connection ended
uncleanly while it was still unanswered; and then it is, once the next connection took the whole
queue, if somebody still waits for it. -/
theorem clean_close_replay (config : Config) (session : Session) (jar : Jar)
    (before after : List Event) {connection : Nat}
    (hl : ((start config session jar).run before).link = .opened connection)
    (hn : n ∈ ((start config session jar).run before).numbersAt .awaiting)
    (hfew : ((start config session jar).along allocates
      (before ++ .closed true :: after)).length < 2 ^ 64 - 1)
    (hc : c = (start config session jar).run (before ++ [.closed true])) :
    c.outbox = ((start config session jar).run before).outbox ∧
    ((∃ q ∈ c.handedIn after, q.2.seq = n) →
      ∃ a e b, after = a ++ e :: b ∧ (c.run a).breaks e = true ∧
        n ∈ (c.run a).numbersAt .awaiting) ∧
    ∀ a e es ds b, after = a ++ e :: (es ++ .connected :: (ds ++ b)) →
      Reconnects (c.run a) e es ds → n ∈ (c.run a).numbersAt .awaiting →
      (((((c.run a).step e).run es).step .connected).run ds).link
        = .opened (((c.run a).step e).run es).connections →
      n ∉ (((((c.run a).step e).run es).step .connected).run ds).cancelled →
      ∃ q ∈ c.handedIn after, q.2.seq = n := by
  have hreach : c.Reachable := hc ▸ (reachable_start config session jar).run _
  have hclosed : c.outbox = ((start config session jar).run before).outbox := by
    rw [hc, run_append, run_cons, run_nil]
    simp only [step, hl]
    rw [disconnect_eq true (by simp [hl])]
    simp
  have hn' : n ∈ c.numbersAt .awaiting := by
    simpa [numbersAt, hclosed] using hn
  have hcut : before ++ .closed true :: after = (before ++ [.closed true]) ++ after := by simp
  rw [hcut, along_append, ← hc, List.length_append] at hfew
  have hconserved := (conserved_start config session jar).run (before ++ [.closed true]) (by omega)
  rw [← hc] at hconserved
  refine ⟨hclosed, ?_, ?_⟩
  · rintro ⟨⟨connection, r⟩, hq, rfl⟩
    obtain ⟨a, b, rfl, hr⟩ := queued_of_mem_handedIn hq
    have hqueued : r.seq ∈ (c.run a).numbersAt .queued := List.mem_map_of_mem hr
    have hshort := along_length_le_append (f := allocates) c a (.next :: b)
    obtain ⟨a', e', b', rfl, hbroken⟩ :=
      hconserved.broken_of_queued hreach (by omega) hn' hqueued
    exact ⟨a', e', b' ++ .next :: b, by simp, hbroken⟩
  · intro a e es ds b heq hre hawaiting hopen hwaited
    obtain ⟨q, hq, hseq⟩ := hre.handed (hreach.run a) hawaiting hopen hwaited
    refine ⟨q, ?_, hseq⟩
    have hcut : after = (a ++ e :: (es ++ [.connected])) ++ (ds ++ b) := by simp [heq]
    have hrun : c.run (a ++ e :: (es ++ [.connected])) =
        (((c.run a).step e).run es).step .connected := by
      rw [run_append, run_cons, run_append]
      rfl
    have hlater : q ∈ ((((c.run a).step e).run es).step .connected).handedIn (ds ++ b) := by
      rw [handedIn_append]
      exact List.mem_append_left _ hq
    rw [hcut, handedIn_append, hrun]
    exact List.mem_append_right _ hlater

/-- A request is transmitted, and its connection is closed cleanly. -/
def closedCleanly : List Event := transmission ++ [.closed true]

/-- A new connection, which is handed nothing and lost uncleanly, and the next one. -/
def lostLater : List Event :=
  [.retry, .connected, .next, .closed false, .retry, .connected, .next, .taken, .next]

/-- **It does happen**: the second connection after a clean close is handed the request again. -/
theorem clean_close_transmits_again :
    (fresh.run transmission).link = .opened 0 ∧
    1 ∈ (fresh.run transmission).numbersAt .awaiting ∧
    ((fresh.run closedCleanly).handedIn lostLater).map (fun q => (q.1, q.2.seq)) = [(2, 1)] := by
  decide +kernel

/-- The unclean end that comes before it. -/
theorem clean_close_replay_lost :
    ∃ a e b, lostLater = a ++ e :: b ∧ ((fresh.run closedCleanly).run a).breaks e = true ∧
      1 ∈ ((fresh.run closedCleanly).run a).numbersAt .awaiting := by
  have hl : (fresh.run transmission).link = .opened 0 := by decide +kernel
  have hn : 1 ∈ (fresh.run transmission).numbersAt .awaiting := by decide +kernel
  have h := clean_close_replay .standard (.new "sid") .empty transmission lostLater hl hn
    (Nat.lt_of_le_of_lt (along_length_le _ _) (by decide)) rfl
  have hagain : 1 ∈ ((fresh.run closedCleanly).handedIn lostLater).map (·.2.seq) := by
    decide +kernel
  exact h.2.1 (List.mem_map.1 hagain)

end Courier.Client

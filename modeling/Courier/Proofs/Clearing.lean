import Courier.Proofs.Arrival
import Courier.Proofs.Correlation
import Courier.Proofs.Link
import Courier.Proofs.Outcomes

/-!
# The command to clear is a barrier

Whatever the loop has received before it takes a command to clear is over then: it was settled or
thrown away, or it is abandoned now. Nothing brings it back. What the loop carries or hands over
later it received later, and a late answer to a request that was abandoned finds nothing.

* `run_carried`: what is carried after a run was carried before it, or received in it.
* `run_within`: what the loop has received is carried, or settled, or was thrown away.
* `cleared_step`: **what the command does**, and all that it does.
* `clear_is_barrier`: **nothing passes it**, in any later run.
-/

namespace Courier.Client

variable {c c' : Client} {e : Event} {es : List Event} {n : ReqSeq} {r : Request}

/-! ## What the loop carries -/

/-- **The loop carries what it carried before**, and what it receives. -/
theorem Transition.carried_cases (h : Transition c e c') (hv : c.outbox.Valid)
    (hr : r ∈ c'.outbox.carried) : r ∈ c.outbox.carried ∨ c.receives e = some r := by
  have hpushed {q : Request} {rest : List Command} (hb : c.link.isBusy = false)
      (hi : c.inbox = .enqueue q :: rest) (he : e = .command)
      (hmem : r ∈ (c.outbox.push q).carried) :
      r ∈ c.outbox.carried ∨ c.receives e = some r := by
    refine (Outbox.mem_carried_push.1 hmem).imp_right ?_
    rintro rfl
    exact receives_eq_some_iff.2 ⟨he, hb, by rw [hi]; rfl⟩
  cases h with
  | queuedOpen q rest connection hl hi hc => exact hpushed (by simp [hl, Link.isBusy]) hi rfl hr
  | queuedLater q rest hl hi hc =>
    have hb : c.link.isBusy = false := by rcases hl with ⟨_, hl⟩ | ⟨_, hl⟩ <;> rw [hl] <;> rfl
    exact hpushed hb hi rfl hr
  | queuedDialled q rest session hl hi hc hs => exact hpushed (by simp [hl, Link.isBusy]) hi rfl hr
  | queuedRotated | cleared | halted | rotated => simp [Outbox.carried] at hr
  | ended e clean he =>
    refine .inl ?_
    dsimp only at hr
    split at hr
    · exact hv.mem_carried_requeue.1 hr
    · exact hr
  | answered b connection seq outcome q outbox hl hj ht =>
    exact .inl (Outbox.mem_carried_of_take? ht hr)
  | skipped connection q rest hl hq hc =>
    refine .inl ?_
    simp only [Outbox.carried, hq, List.cons_append, List.mem_cons] at hr ⊢
    exact .inr hr
  | handed connection q rest hl hq hc => exact .inl (Outbox.mem_carried_of_markSent hq hr)
  | _ => exact .inl hr

/-- What is carried after a run was carried before it, or received in it. -/
theorem run_carried (hc : c.Reachable) (hr : r ∈ (c.run es).outbox.carried) :
    r ∈ c.outbox.carried ∨ r ∈ c.along receives es := by
  induction es generalizing c with
  | nil => exact .inl hr
  | cons e es ih =>
    rw [along, List.mem_append, Option.mem_toList]
    rcases ih (hc.step e) hr with hmem | hmem
    · rcases (step_transition c e).carried_cases (reachable_valid hc) hmem with hold | hreceives
      · exact .inl hold
      · exact .inr (.inl hreceives)
    · exact .inr (.inr hmem)

/-- So is what is handed over. -/
theorem run_handed (hc : c.Reachable) {q : Nat × Request} (hq : q ∈ c.handedIn es) :
    q.2 ∈ c.outbox.carried ∨ q.2 ∈ c.along receives es := by
  obtain ⟨before, after, rfl, hqueued⟩ := queued_of_mem_handedIn hq
  have hcarried : q.2 ∈ (c.run before).outbox.carried := List.mem_append_left _ hqueued
  rw [along_append, List.mem_append]
  exact (run_carried hc hcarried).imp_right .inl

/-! ## What the loop has received -/

/-- The numbers of the requests that are carried, or settled, or were thrown away. -/
def within (c : Client) : List ReqSeq :=
  c.outbox.carried.map (·.seq) ++ (c.numbersAt .settled ++ c.numbersAt .discarded)

theorem mem_within : n ∈ c.within ↔ n ∈ c.outbox.carried.map (·.seq) ∨
    n ∈ c.numbersAt .settled ∨ n ∈ c.numbersAt .discarded := by
  rw [within, List.mem_append, List.mem_append]

theorem settled_of_failures {error : Error} {rs : List Request} {before : List Occurrence}
    (hc : c.history = failures rs error ++ before) (hn : n ∈ rs.map (·.seq)) : n ∈ c.within := by
  refine mem_within.2 (.inr (.inl ?_))
  rw [numbersAt, hc, List.filterMap_append, settled?_failures]
  exact List.mem_append_left _ (List.mem_reverse.2 hn)

/-- **Nothing that the loop has received gets lost**: it is carried on, or settled, or thrown
away. -/
theorem Transition.within_mono (h : Transition c e c') (hv : c.outbox.Valid) (hn : n ∈ c.within) :
    n ∈ c'.within := by
  rcases mem_within.1 hn with hn | hn
  · have hpushed (q : Request) : n ∈ (c.outbox.push q).carried.map (·.seq) := by
      obtain ⟨r, hr, rfl⟩ := List.mem_map.1 hn
      exact List.mem_map_of_mem (Outbox.mem_carried_push.2 (.inl hr))
    cases h with
    | queuedOpen q | queuedLater q | queuedDialled q => exact mem_within.2 (.inl (hpushed q))
    -- Whoever empties the outbox settles all that is in it.
    | queuedRotated q => exact settled_of_failures rfl (hpushed q)
    | cleared | rotated | halted => exact settled_of_failures rfl hn
    | ended e clean he =>
      refine mem_within.2 (.inl ?_)
      dsimp only
      split
      · obtain ⟨r, hr, rfl⟩ := List.mem_map.1 hn
        exact List.mem_map_of_mem (hv.mem_carried_requeue.2 hr)
      · exact hn
    | answered b connection seq outcome q outbox hl hj ht =>
      obtain ⟨before, stamp, after, -, -, rfl⟩ := hv.take?_eq_some ht
      obtain ⟨r, hr, rfl⟩ := List.mem_map.1 hn
      by_cases hseq : r.seq = q.seq
      · rw [hseq]
        exact mem_within.2 (.inr (.inl List.mem_cons_self))
      · exact mem_within.2 (.inl (List.mem_map_of_mem (hv.mem_carried_of_ne ht hr hseq)))
    | skipped connection q rest hl hq hc =>
      rw [Outbox.carried, hq, List.cons_append, List.map_cons, List.mem_cons] at hn
      rcases hn with rfl | hn
      · exact mem_within.2 (.inr (.inr (List.mem_cons_self)))
      · exact mem_within.2 (.inl hn)
    | handed connection q rest hl hq hc =>
      exact mem_within.2 (.inl (hv.mem_map_carried_markSent hq hn))
    | _ => exact mem_within.2 (.inl hn)
  · have hhistory := h.history_suffix.sublist
    refine mem_within.2 (.inr (hn.imp (fun hn => ?_) fun hn => ?_))
    · exact (hhistory.filterMap _).subset hn
    · exact (hhistory.filterMap _).subset hn

theorem mem_within_flush (hn : n ∈ c.outbox.carried.map (·.seq)) : n ∈ c.flush.within := by
  unfold flush
  split
  · exact mem_within.2 (.inl hn)
  · split
    · exact mem_within.2 (.inl hn)
    · rw [connect_eq]
      split
      · exact mem_within.2 (.inl hn)
      · exact settled_of_failures rfl hn
  · exact mem_within.2 (.inl hn)

/-- What the loop receives is within. -/
theorem within_of_receives (hr : c.receives e = some r) : r.seq ∈ (c.step e).within := by
  obtain ⟨rfl, hb, hi⟩ := receives_eq_some_iff.1 hr
  obtain ⟨rest, hi⟩ := List.head?_eq_some_iff.1 hi
  simp only [step, takeCommand, hb, hi, Bool.false_eq_true, if_false, enqueue]
  split
  · exact mem_within.2 (.inr (.inr List.mem_cons_self))
  · refine mem_within_flush (List.mem_map_of_mem (Outbox.mem_carried_push.2 (.inr rfl)))

/-- **What the loop has received stays within**, in every run. -/
theorem run_within (hc : c.Reachable) (h : n ∈ c.within ∨ n ∈ (c.along receives es).map (·.seq)) :
    n ∈ (c.run es).within := by
  induction es generalizing c with
  | nil => exact h.resolve_right (by simp [along])
  | cons e es ih =>
    refine ih (hc.step e) ?_
    rw [along, List.map_append, List.mem_append] at h
    rcases h with hn | hn | hn
    · exact .inl ((step_transition c e).within_mono (reachable_valid hc) hn)
    · obtain ⟨r, hr, rfl⟩ := List.mem_map.1 hn
      exact .inl (within_of_receives (Option.mem_toList.1 hr))
    · exact .inr hn

/-! ## The command to clear -/

/-- What the command to clear makes of a client. -/
structure Cleared (c c' : Client) : Prop where
  queue_eq : c'.outbox.queue = []
  awaiting_eq : c'.outbox.awaiting = []
  /-- Whatever was queued or awaiting is abandoned, each once, and nothing else is settled. -/
  outcomes_eq : c'.outcomes = ((c.numbersAt .queued ++ c.numbersAt .awaiting).map fun n =>
    (n, .error .abandoned)).reverse ++ c.outcomes
  /-- The command is taken. Nothing else changes: neither the link and the pauses, nor the numbers,
  the cookies, the handlers and the commands behind it. -/
  rest_eq : c' = { c with inbox := c.inbox.tail, outbox := c'.outbox, history := c'.history }

theorem step_of_clear (h : c.takes .command = some .clear) : c.step .command = { c with
    inbox := c.inbox.tail
    outbox := c.outbox.drain.2
    history := failures c.outbox.carried .abandoned ++ c.history } := by
  unfold takes at h
  cases hb : c.link.isBusy with
  | true => simp [hb] at h
  | false =>
    rw [hb] at h
    obtain ⟨rest, hi⟩ := List.head?_eq_some_iff.1 h
    simp only [step, takeCommand, hb, hi, Bool.false_eq_true, if_false, failAll_eq]
    rfl

/-- **What the command to clear does.** -/
theorem cleared_step (hv : c.outbox.Valid) (h : c.takes .command = some .clear) :
    Cleared c (c.step .command) := by
  rw [step_of_clear h]
  refine ⟨rfl, rfl, ?_, rfl⟩
  rw [outcomes, List.filterMap_append, outcomes_failures, hv.map_seq_carried]
  rfl

/-! ## Afterwards -/

/-- A request that was settled is nowhere else. -/
theorem Conserved.notMem_of_settled {issued : List ReqSeq} {given : Nat}
    (h : Conserved issued given c) (hn : n ∈ c.numbersAt .settled) {p : Place} (hp : p ≠ .settled) :
    n ∉ c.numbersAt p :=
  fun hmem => hp (h.not_two_places hmem hn)

/-- What a client `c` without requests carries and hands over in a run is new. -/
structure Renewed (c : Client) (es : List Event) : Prop where
  carried : ∀ r ∈ (c.run es).outbox.carried, r ∈ c.along receives es
  handed : ∀ q ∈ c.handedIn es, q.2 ∈ c.along receives es

theorem renewed_of_empty (hc : c.Reachable) (hempty : c.outbox.carried = []) (es : List Event) :
    Renewed c es where
  carried r hr := (run_carried hc hr).resolve_left (by simp [hempty])
  handed q hq := (run_handed hc hq).resolve_left (by simp [hempty])

/-- A request of this number, which was settled before a run from `c`, is left alone by it. -/
structure Finished (n : ReqSeq) (o : Outcome) (c : Client) (es : List Event) : Prop where
  outcome : (c.run es).outcome? n = some o
  once : ((c.run es).numbersAt .settled).count n = 1
  /-- No other request has its number. -/
  unreceived : ∀ r ∈ c.along receives es, r.seq ≠ n
  /-- It is not handed over. -/
  unhanded : ∀ q ∈ c.handedIn es, q.2.seq ≠ n
  /-- A frame that carries its number finds nothing, whatever else is in it. -/
  stale : ∀ b frame, Inbound.decode? b = some frame → frame.header.reqSeq = some n →
    ((c.run es).step (.received b)).outbox = (c.run es).outbox ∧
      ((c.run es).step (.received b)).outcomes = (c.run es).outcomes

/-- A frame whose number nothing in the table has changes neither the table nor an outcome. -/
theorem received_stale {b : Octets} {frame : Inbound} (hd : Inbound.decode? b = some frame)
    (hseq : frame.header.reqSeq = some n) (hn : n ∉ c.numbersAt .awaiting) :
    (c.step (.received b)).outbox = c.outbox ∧ (c.step (.received b)).outcomes = c.outcomes := by
  have hno : ∀ m, Addresses b m → m ∉ c.outbox.awaiting.map (·.1) := by
    rintro m ⟨frame', hd', -, hseq'⟩
    rw [hd] at hd'
    cases hd'
    rw [hseq] at hseq'
    cases hseq'
    exact hn
  obtain ⟨jar, session, new, hreceive, hnew⟩ := receive_of_not_addressed hno
  simp only [step]
  split
  · rw [hreceive]
    exact ⟨rfl, by rw [outcomes, List.filterMap_append, outcome?_quiet hnew]; rfl⟩
  · exact ⟨rfl, rfl⟩

/-- **What is settled is finished**, as long as no number is given twice. -/
theorem Conserved.finished {issued : List ReqSeq} {given : Nat} {o : Outcome}
    (h : Conserved issued given c) (hlt : given + (c.along allocates es).length < 2 ^ 64)
    (ho : (n, o) ∈ c.outcomes) : Finished n o c es := by
  have hsettled : n ∈ c.numbersAt .settled := map_fst_outcomes c ▸ List.mem_map_of_mem ho
  -- At no point of the run is it in another place.
  have hnowhere (before after : List Event) (hcut : es = before ++ after) {p : Place}
      (hp : p ≠ .settled) : n ∉ (c.run before).numbersAt p := by
    have hshort := along_length_le_append (f := allocates) c before after
    rw [hcut] at hlt
    exact (h.run before (by omega)).notMem_of_settled (settled_run hsettled before) hp
  obtain ⟨houtcome, honce⟩ := (h.run es hlt).outcome_stays ho
  refine ⟨houtcome, honce, ?_, ?_, ?_⟩
  · rintro r hr rfl
    obtain ⟨before, e, after, hcut, hreceives⟩ := mem_along.1 hr
    exact hnowhere before (e :: after) hcut (p := .posted) (by decide)
      (posted_of_receives hreceives)
  · rintro ⟨connection, r⟩ hq rfl
    obtain ⟨before, after, hcut, hqueued⟩ := queued_of_mem_handedIn hq
    exact hnowhere before (.next :: after) hcut (p := .queued) (by decide)
      (List.mem_map_of_mem hqueued)
  · intro b frame hd hseq
    exact received_stale hd hseq (hnowhere es [] (List.append_nil es).symm (by decide))

/-- What the command to clear parts: `received` had come to the loop before, and the run goes on
from `c` to `c'`. -/
structure Parted (received : List Request) (c c' : Client) : Prop extends Cleared c c' where
  /-- Whatever is abandoned had come to the loop before the command. -/
  received_of_carried : ∀ r ∈ c.outbox.carried, r ∈ received
  /-- Nothing of what had come to the loop is left. -/
  spent : ∀ r ∈ received, r.seq ∈ c'.numbersAt .settled ∨ r.seq ∈ c'.numbersAt .discarded
  /-- Only what comes to the loop later is carried or handed over later. -/
  renewed : ∀ es, Renewed c' es

/-- **The command to clear is a barrier**, in any run and whatever comes afterwards. As long as no
number is given twice, what it abandons stays abandoned, is never handed over again, and no frame
that carries its number changes anything. -/
theorem clear_is_barrier (config : Config) (session : Session) (jar : Jar) (before : List Event)
    (hclear : ((start config session jar).run before).takes .command = some .clear)
    (hc : c = (start config session jar).run before) :
    Parted ((start config session jar).along receives before) c (c.step .command) ∧
    ∀ es, ((start config session jar).along allocates
        (before ++ .command :: es)).length < 2 ^ 64 - 1 →
      ∀ n ∈ c.numbersAt .queued ++ c.numbersAt .awaiting,
        Finished n (.error .abandoned) (c.step .command) es := by
  have hstart := reachable_start config session jar
  have hreach : c.Reachable := hc ▸ hstart.run before
  have hv := reachable_valid hreach
  rw [← hc] at hclear
  have hcleared := cleared_step hv hclear
  have hempty : (c.step .command).outbox.carried = [] := by
    rw [Outbox.carried, hcleared.queue_eq, hcleared.awaiting_eq]
    rfl
  refine ⟨⟨hcleared, ?_, ?_, renewed_of_empty (hreach.step _) hempty⟩, ?_⟩
  · intro r hr
    rw [hc] at hr
    exact (run_carried hstart hr).resolve_left (by simp [start, Outbox.empty, Outbox.carried])
  · intro r hr
    -- It was within before the command, which settles what is carried.
    have hwithin : r.seq ∈ c.within := hc ▸ run_within hstart (.inr (List.mem_map_of_mem hr))
    have hlater := (step_transition c .command).within_mono hv hwithin
    exact (mem_within.1 hlater).resolve_left (by simp [hempty])
  · intro es hfew n hn
    have hcut : before ++ .command :: es = (before ++ [.command]) ++ es := by simp
    have hrun : (start config session jar).run (before ++ [.command]) = c.step .command := by
      rw [hc, run_append]
      rfl
    rw [hcut, along_append, hrun, List.length_append] at hfew
    have hconserved := (conserved_start config session jar).run (before ++ [.command]) (by omega)
    rw [hrun] at hconserved
    refine hconserved.finished (by omega) ?_
    rw [hcleared.outcomes_eq]
    exact List.mem_append_left _ (List.mem_reverse.2 (List.mem_map_of_mem hn))

/-- A request awaits its answer when its connection is closed cleanly, and another one waits for the
next connection. Then comes the command to clear, and a third request behind it. -/
def aboutToClear : List Event :=
  transmission ++ [.closed true, .send "/b" .empty .raw, .finish 2, .command, .clear,
    .send "/c" .empty .raw, .finish 3]

/-- The third request finds a new connection. -/
def afterClear : List Event := [.command, .retry, .connected, .next, .taken, .next]

/-- Only the third request is handed over, and late answers to the first two are ignored. -/
theorem clear_is_barrier_parted :
    let c := fresh.run aboutToClear
    let d := (c.step .command).run afterClear
    c.numbersAt .awaiting = [1] ∧ c.numbersAt .queued = [2] ∧
      ((c.step .command).handedIn afterClear).map (·.2.seq) = [3] ∧
      d.numbersAt .awaiting = [3] ∧
      ∀ n ∈ [1, 2], d.outcome? n = some (.error .abandoned) ∧
        (d.step (.received (answerTo n))).outbox = d.outbox := by
  intro c d
  have hclear : (fresh.run aboutToClear).takes .command = some .clear := by decide +kernel
  have hawaiting : c.numbersAt .awaiting = [1] := by decide +kernel
  have hqueued : c.numbersAt .queued = [2] := by decide +kernel
  have hread : ∀ n ∈ [1, 2], ∃ frame, Inbound.decode? (answerTo n) = some frame ∧
      frame.header.reqSeq = some n := by
    simp only [List.forall_mem_cons]
    exact ⟨⟨_, rfl, rfl⟩, ⟨_, rfl, rfl⟩, nofun⟩
  have hfew : (fresh.along allocates
      (aboutToClear ++ .command :: afterClear)).length < 2 ^ 64 - 1 :=
    Nat.lt_of_le_of_lt (along_length_le _ _) (by decide)
  have hfinished := (clear_is_barrier .standard (.new "sid") .empty aboutToClear hclear rfl).2
    afterClear hfew
  refine ⟨hawaiting, hqueued, by decide +kernel, by decide +kernel, fun n hn => ?_⟩
  have hmem : n ∈ c.numbersAt .queued ++ c.numbersAt .awaiting := by
    rw [hawaiting, hqueued]
    simpa [or_comm] using hn
  have hdone := hfinished n hmem
  obtain ⟨frame, hd, hseq⟩ := hread n hn
  exact ⟨hdone.outcome, (hdone.stale (answerTo n) frame hd hseq).1⟩

end Courier.Client

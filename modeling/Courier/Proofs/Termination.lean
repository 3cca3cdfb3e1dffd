import Courier.Proofs.Link
import Courier.Proofs.Outcomes

/-!
# The end of the loop

The loop ends when it takes a command to shut down, or when nobody can command it any more.
Whatever it had not settled by then fails, also what stood behind the command; after that only
files that are still being read settle requests, and nothing is transmitted.

* `Transition.halting`: what the end settles, and that nothing is left.
* `Transition.after_end`: what can happen to a client afterwards.
* `termination_settles`: **every request that the loop had is settled once**, in every run after
  which the loop has ended.
-/

namespace Courier.Client

variable {c c' : Client} {e : Event} {n : ReqSeq}

/-- The loop has ended and has nothing left. -/
structure AtRest (c : Client) : Prop where
  stopped : c.stopped = true
  inbox_eq : c.inbox = []
  queue_eq : c.outbox.queue = []
  awaiting_eq : c.outbox.awaiting = []
  link_eq : c.link = .disconnected

/-- The numbers of the requests that the loop has, or that are on their way to it. -/
def unsettled (c : Client) : List ReqSeq :=
  c.numbersAt .posted ++ (c.numbersAt .queued ++ c.numbersAt .awaiting)

/-- What becomes of a request whose file is read after the end of the loop. -/
def lateOutcome : Except FileFault Octets → Outcome
  | .ok _ => .error .connectionClosed
  | .error fault => .error (.file fault)

/-- From `c` to `c'` only requests are settled whose files were being read, each at most once. -/
def OnlyLate (c c' : Client) : Prop :=
  ∃ new, c'.outcomes = new ++ c.outcomes ∧
    (new.map (·.1) ++ c'.numbersAt .reading).Perm (c.numbersAt .reading)

theorem OnlyLate.of_eq (ho : c'.outcomes = c.outcomes) (hu : c'.uploads = c.uploads) :
    OnlyLate c c' :=
  ⟨[], ho, by simp [numbersAt, hu]⟩

theorem OnlyLate.trans {d : Client} (h : OnlyLate c c') (h' : OnlyLate c' d) : OnlyLate c d := by
  obtain ⟨new, ho, hperm⟩ := h
  obtain ⟨new', ho', hperm'⟩ := h'
  refine ⟨new' ++ new, by rw [ho', ho, List.append_assoc], ?_⟩
  have hswap : (new'.map (·.1) ++ new.map (·.1)).Perm (new.map (·.1) ++ new'.map (·.1)) :=
    List.perm_append_comm
  calc (new' ++ new).map (·.1) ++ d.numbersAt .reading
      = new'.map (·.1) ++ new.map (·.1) ++ d.numbersAt .reading := by rw [List.map_append]
    List.Perm _ (new.map (·.1) ++ new'.map (·.1) ++ d.numbersAt .reading) :=
      hswap.append_right _
    _ = new.map (·.1) ++ (new'.map (·.1) ++ d.numbersAt .reading) := List.append_assoc _ _ _
    List.Perm _ (new.map (·.1) ++ c'.numbersAt .reading) := hperm'.append_left _
    List.Perm _ (c.numbersAt .reading) := hperm

/-! ## The end -/

/-- What the end of the loop at a client `c` leads to. -/
structure Halting (c : Client) (e : Event) (c' : Client) : Prop where
  /-- The command to shut down is taken, or nobody is left to command. -/
  halts : ∃ rest, c.Halts e rest
  idle : c.link.isBusy = false
  rest : AtRest c'
  /-- What was not settled fails, each request once, and nothing else is settled. -/
  settled : c'.outcomes.Perm
    (c.unsettled.map (fun n => (n, .error .connectionClosed)) ++ c.outcomes)

/-- **The end of the loop settles whatever is unsettled.** -/
theorem Transition.halting (h : Transition c e c') (hv : c.outbox.Valid)
    (hs : c.stopped = false) (hs' : c'.stopped = true) : Halting c e c' := by
  cases h with
  | halted e rest hb he =>
    refine ⟨⟨rest, he⟩, hb, ⟨rfl, rfl, rfl, rfl, rfl⟩, ?_⟩
    have hposted : (requestsOf rest).map (·.seq) = c.numbersAt .posted := by
      rw [he.requestsOf_eq]
      rfl
    have hdrained : c.outbox.drain.1.map (·.seq) =
        c.numbersAt .queued ++ c.numbersAt .awaiting := hv.map_seq_drain
    simp only [outcomes, List.filterMap_append, outcomes_failures, outcome?_closing, hposted,
      hdrained, unsettled, List.map_append, List.nil_append]
    -- The inbox fails first and the history has the latest first, so the order is another one.
    rw [← List.append_assoc]
    refine List.Perm.append_right _ ?_
    exact ((List.reverse_perm _).append (List.reverse_perm _)).trans List.perm_append_comm
  | _ => exact absurd (hs.symm.trans hs') Bool.false_ne_true

/-! ## Afterwards -/

/-- A call that begins is skipped or refused. -/
theorem begin_of_stopped (hs : c.stopped = true) (uri : String) (body : Body)
    (response : ResponseType) : (c.begin uri body response).2 =
      if c.checkSession.2 = .rotated then .ok .skipped else .error .connectionClosed := by
  cases hcheck : c.session.check c.jar.header with
  | mk session status =>
  cases status <;> simp [begin, checkSession, hcheck, hs]

theorem send_of_stopped (hs : c.stopped = true) (uri : String) (body : Body)
    (response : ResponseType) : (c.send uri body response).2 =
      if c.checkSession.2 = .rotated then .ok none else .error .connectionClosed := by
  have hbegin := begin_of_stopped hs uri body response
  unfold send
  by_cases hr : c.checkSession.2 = .rotated
  · rw [if_pos hr] at hbegin ⊢
    cases hb : c.begin uri body response with
    | mk c' call =>
    obtain rfl : call = .ok .skipped := by rw [hb] at hbegin; exact hbegin
    rfl
  · rw [if_neg hr] at hbegin ⊢
    cases hb : c.begin uri body response with
    | mk c' call =>
    obtain rfl : call = .error .connectionClosed := by rw [hb] at hbegin; exact hbegin
    rfl

theorem allocates_of_stopped (hs : c.stopped = true) (e : Event) : c.allocates e = none := by
  cases e with
  | send uri body response =>
    simp only [allocates, begin_of_stopped hs]
    by_cases hr : c.checkSession.2 = .rotated
    · simp [hr]
    · simp [hr]
  | _ => rfl

theorem finish_of_stopped (hs : c.stopped = true) (r : Request) :
    (c.finish r).2 = .error .connectionClosed := by
  simp [finish, hs]

/-- A file that is read too late settles its request all the same. -/
theorem uploadRead_of_stopped (hs : c.stopped = true) (hn : n ∈ c.numbersAt .reading)
    (result : Except FileFault Octets) :
    (c.step (.uploadRead n result)).outcomes = (n, lateOutcome result) :: c.outcomes ∧
      (c.step (.uploadRead n result)).numbersAt .reading = (c.numbersAt .reading).erase n := by
  obtain ⟨p, hp, rfl⟩ := List.mem_map.1 hn
  have hreading : (c.uploads.find? fun q => q.seq = p.seq).isSome := by
    rw [List.find?_isSome]
    exact ⟨p, hp, by simp⟩
  -- Another request of this number may stand before it; the number is the same.
  obtain ⟨q, hq⟩ := Option.isSome_iff_exists.1 hreading
  have herase : (c.uploads.eraseP fun q => q.seq = p.seq).map (·.seq) =
      (c.uploads.map (·.seq)).erase p.seq := by
    rw [List.erase_eq_eraseP', List.eraseP_map]
    rfl
  simp only [step, uploadRead, hq, hs, if_true]
  cases result with
  | error fault => exact ⟨rfl, herase⟩
  | ok octets => exact ⟨rfl, herase⟩

/-- **After the end** nothing is left to the loop, and only late files settle requests. -/
theorem Transition.after_end (h : Transition c e c') (hr : AtRest c) :
    AtRest c' ∧ OnlyLate c c' := by
  obtain ⟨hstopped, hinbox, hqueue, hawaiting, hlink⟩ := hr
  have hnone := allocates_of_stopped hstopped e
  cases h with
  | quiet e jar session handlers held new hnew =>
    exact ⟨⟨hstopped, hinbox, hqueue, hawaiting, hlink⟩,
      .of_eq (by simp [outcomes, outcome?_quiet hnew]) rfl⟩
  | forsaken | cancelled => exact ⟨⟨hstopped, hinbox, hqueue, hawaiting, hlink⟩, .of_eq rfl rfl⟩
  | readFailed p result error he hp =>
    have hperm := (perm_cons_eraseP hp).map (·.seq)
    exact ⟨⟨hstopped, hinbox, hqueue, hawaiting, hlink⟩, [(p.seq, .error error)], rfl, hperm.symm⟩
  -- Nothing else can happen: no number is given, the inbox is closed and empty, and there is no
  -- connection.
  | numbered uri body response session r hs hr hn | reading uri body response session r hs hr hn =>
    rw [hn] at hnone
    cases hnone
  | posted r hr hs | asked e command hc hs | readPosted p octets r hr hp hs => simp [hstopped] at hs
  | dropped r rest hb hi | cleared rest hb hi | queried rest stats hb hi => simp [hinbox] at hi
  | queuedOpen r rest connection hl hi | queuedLater r rest hl hi
  | queuedDialled r rest session hl hi | queuedRotated r rest session hl hi => simp [hinbox] at hi
  | halted e rest hb he =>
    cases he with
    | shutdown rest hi => simp [hinbox] at hi
    | deserted hd => simp [isDeserted, hstopped] at hd
  | ended e clean he => cases he <;> simp_all
  | connected cookies hl | answered b connection seq outcome r outbox hl
  | redialled secs session hl | rotated secs session hl | drained connection hl
  | skipped connection r rest hl | handed connection r rest hl | taken connection r hl =>
    simp [hlink] at hl

theorem AtRest.run (h : AtRest c) (es : List Event) :
    AtRest (c.run es) ∧ OnlyLate c (c.run es) := by
  induction es generalizing c with
  | nil => exact ⟨h, .of_eq rfl rfl⟩
  | cons e es ih =>
    obtain ⟨hrest, hlate⟩ := (step_transition c e).after_end h
    obtain ⟨hrest', hlate'⟩ := ih hrest
    exact ⟨hrest', hlate.trans hlate'⟩

/-- Without a connection nothing is handed over. -/
theorem AtRest.handOvers_run (h : AtRest c) (es : List Event) :
    (c.run es).handOvers = c.handOvers := by
  have hnone : c.handedIn es = [] := by
    refine List.eq_nil_iff_forall_not_mem.2 fun q hq => ?_
    obtain ⟨before, after, -, hl, -⟩ := mem_handedIn.1 hq
    have hlink := (h.run before).1.link_eq
    rw [hl] at hlink
    cases hlink
  rw [run_handOvers, hnone, List.append_nil]

/-! ## Termination -/

/-- What is true of a client whose loop has ended, from now on. -/
structure Ended (c : Client) : Prop where
  rest : AtRest c
  /-- It stays so, and the record of what was transmitted stays as it is. -/
  silent : ∀ es, AtRest (c.run es) ∧ (c.run es).handOvers = c.handOvers
  /-- Requests whose files were being read are settled as the files are read, and no others. -/
  late : ∀ es, OnlyLate c (c.run es)
  read : ∀ n ∈ c.numbersAt .reading, ∀ result,
    (c.step (.uploadRead n result)).outcomes = (n, lateOutcome result) :: c.outcomes ∧
      (c.step (.uploadRead n result)).numbersAt .reading = (c.numbersAt .reading).erase n
  /-- A call that had begun fails. -/
  finish : ∀ r, (c.finish r).2 = .error .connectionClosed
  /-- One that begins is skipped or fails, and is given no number. -/
  send : ∀ uri body response,
    (c.send uri body response).2 =
        (if c.checkSession.2 = .rotated then .ok none else .error .connectionClosed) ∧
      c.allocates (.send uri body response) = none

theorem AtRest.ended (h : AtRest c) : Ended c where
  rest := h
  silent es := ⟨(h.run es).1, h.handOvers_run es⟩
  late es := (h.run es).2
  read _ hn result := uploadRead_of_stopped h.stopped hn result
  finish r := finish_of_stopped h.stopped r
  send uri body response :=
    ⟨send_of_stopped h.stopped uri body response, allocates_of_stopped h.stopped _⟩

/-- **Termination settles everything.** In a run after which the loop has ended there is one event
that ended it. It settled every request that the loop had or that was on its way to it, and each
of them stays settled so, once, as long as no number was given twice. -/
theorem termination_settles (config : Config) (session : Session) (jar : Jar)
    (events : List Event) (hs : ((start config session jar).run events).stopped = true) :
    Ended ((start config session jar).run events) ∧
    ∃ before e after, events = before ++ e :: after ∧
      Halting ((start config session jar).run before) e
        (((start config session jar).run before).step e) ∧
      Ended (((start config session jar).run before).step e) ∧
      (((start config session jar).along allocates events).length < 2 ^ 64 - 1 →
        ∀ n ∈ ((start config session jar).run before).unsettled,
          ((start config session jar).run events).outcome? n = some (.error .connectionClosed) ∧
            (((start config session jar).run events).numbersAt .settled).count n = 1) := by
  obtain ⟨before, e, after, rfl, hrunning, hstopped⟩ :=
    exists_first (P := fun c => c.stopped = true) (by simp [start]) hs
  have hreachable := (reachable_start config session jar).run before
  have hhalting := (step_transition _ e).halting (reachable_valid hreachable)
    (by simpa using hrunning) hstopped
  have hrun : (start config session jar).run (before ++ e :: after) =
      (((start config session jar).run before).step e).run after := run_append _ _ _
  refine ⟨?_, before, e, after, rfl, hhalting, hhalting.rest.ended, ?_⟩
  · rw [hrun]
    exact (hhalting.rest.run after).1.ended
  · intro hfew n hn
    have hconserved := (conserved_start config session jar).run (before ++ e :: after) (by omega)
    rw [hrun] at hconserved ⊢
    refine hconserved.outcome_stays (hhalting.settled.mem_iff.2 ?_)
    exact List.mem_append_left _ (List.mem_map.2 ⟨n, hn, rfl⟩)

/-- Behind the command to shut down stand a request and a command to clear. Both requests fail as
the first command is taken, and the other two are never taken. -/
theorem termination_settles_swept :
    let events := transmission ++
      [.send "/b" .empty .raw, .shutdown, .finish 2, .clear, .command, .command, .command]
    (fresh.run events).stopped = true ∧ (fresh.run events).numbersAt .settled = [1, 2] ∧
      Ended (fresh.run events) ∧
      ∃ before e after, events = before ++ e :: after ∧
        Halting (fresh.run before) e ((fresh.run before).step e) ∧
        ∀ n ∈ (fresh.run before).unsettled,
          (fresh.run events).outcome? n = some (.error .connectionClosed) := by
  intro events
  have hstopped : (fresh.run events).stopped = true := by decide +kernel
  have hsettled : (fresh.run events).numbersAt .settled = [1, 2] := by decide +kernel
  have hfew : (fresh.along allocates events).length < 2 ^ 64 - 1 :=
    Nat.lt_of_le_of_lt (along_length_le _ _) (by decide)
  obtain ⟨hended, before, e, after, heq, hhalting, -, hunsettled⟩ :=
    termination_settles .standard (.new "sid") .empty events hstopped
  exact ⟨hstopped, hsettled, hended, before, e, after, heq, hhalting,
    fun n hn => (hunsettled hfew n hn).1⟩

end Courier.Client

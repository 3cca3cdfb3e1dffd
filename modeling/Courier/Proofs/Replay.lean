import Courier.Proofs.Session
import Courier.Proofs.Transmission

/-!
# Replay after a lost connection

When an open connection is lost, the unanswered requests go in front of the queue. Until the
next handshake succeeds nothing leaves the queue, however many handshakes fail. The new
connection is then handed the queue from its head on.

* `Pausing`: what holds between the end of a connection and the next handshake.
* `Emptying`: what holds while a connection is handed the queue.
* `replay_complete`: both together, over whole runs.
-/

namespace Courier.Client

variable {c c' : Client} {e : Event} {waiting : List Request} {connection : Nat}

/-! ## Between two connections -/

/-- The client is between two connections, and these requests are to be transmitted. -/
structure Pausing (waiting : List Request) (c : Client) : Prop where
  link : (∃ cookies, c.link = .connecting cookies) ∨ ∃ secs, c.link = .waiting secs
  backoff : c.backoff.isIdle = false
  awaiting : c.outbox.awaiting = []
  queue : c.outbox.queue = waiting

/-- There will never be another handshake. -/
def Dead (c : Client) : Prop :=
  c.link = .disconnected ∧ (c.stopped = true ∧ c.inbox = [] ∨ c.session.rotated = true)

/-- Nothing revives a client. -/
theorem Transition.dead (h : Transition c e c') (hd : c.Dead) : c'.Dead := by
  obtain ⟨hlink, hstop⟩ := hd
  cases h with
  | quiet e jar session handlers held new hnew hr hm => exact ⟨hlink, hstop.imp id hr⟩
  | numbered uri body response session r hs hr hn hh
  | reading uri body response session p hs hp hn hh =>
    refine ⟨hlink, hstop.imp id fun hrotated => ?_⟩
    simp [Session.not_rotated_of_check hs] at hrotated
  | posted r hr hs | asked e command hc hs hm | readPosted p octets r hr hp hs =>
    refine ⟨hlink, .inr (hstop.resolve_left ?_)⟩
    simp [hs]
  | forsaken | cancelled | readFailed => exact ⟨hlink, hstop⟩
  | dropped r rest hb hi hc | cleared rest hb hi | queried rest stats hb hi =>
    refine ⟨hlink, .inr (hstop.resolve_left ?_)⟩
    simp [hi]
  | queuedDialled r rest session hl hi hc hs =>
    rcases hstop with ⟨-, hempty⟩ | hrotated
    · simp [hi] at hempty
    · simp [Session.not_rotated_of_check hs] at hrotated
  | queuedRotated r rest session hl hi hc hs => exact ⟨rfl, .inr (Session.rotated_of_check hs)⟩
  | halted e rest hb he => exact ⟨rfl, .inl ⟨rfl, rfl⟩⟩
  | ended e clean he => cases he <;> simp_all
  | queuedLater r rest hl hi hc => rcases hl with ⟨_, hl⟩ | ⟨_, hl⟩ <;> simp [hl] at hlink
  | _ => simp_all

/-- **Between two connections nothing leaves the queue**, unless the client gives up for good. -/
theorem Transition.pausing (h : Transition c e c') (hs : c.Steady) (hp : Pausing waiting c)
    (hconnected : e ≠ .connected) (hclear : c.takes e ≠ some .clear) :
    Pausing (waiting ++ (c.queues e).toList) c' ∨ c'.Dead := by
  have hnone : c.takes e = none → c.queues e = none := by
    intro ht
    simp [queues, ht]
  obtain ⟨hlink, hback, hawaiting, hqueue⟩ := hp
  have hnotOpen : c.link.connection? = none := by
    rcases hlink with ⟨_, hl⟩ | ⟨_, hl⟩ <;> rw [hl] <;> rfl
  have hkeep : ∀ {d : Client}, c.queues e = none → d.link = c.link → d.backoff = c.backoff →
      d.outbox = c.outbox → Pausing (waiting ++ (c.queues e).toList) d ∨ d.Dead := by
    intro d hq hl hb ho
    rw [hq, Option.toList_none, List.append_nil]
    refine .inl ⟨?_, ?_, ?_, ?_⟩
    · rw [hl]
      exact hlink
    · rw [hb]
      exact hback
    · rw [ho]
      exact hawaiting
    · rw [ho]
      exact hqueue
  cases h with
  | quiet e jar session handlers held new hnew hr hm => exact hkeep (hnone hm.takes) rfl rfl rfl
  | asked e command hc hs hm => exact hkeep (hnone hm.takes) rfl rfl rfl
  | dropped r rest hb hi hc => exact hkeep (by simp [queues, takes, hb, hi, hc]) rfl rfl rfl
  | queuedLater r rest hl hi hc =>
    have hb : c.link.isBusy = false := by rcases hl with ⟨_, hl⟩ | ⟨_, hl⟩ <;> rw [hl] <;> rfl
    have hq : c.queues .command = some r := by simp [queues, takes, hb, hi, hc]
    rw [hq]
    exact .inl ⟨hlink, hback, hawaiting, by simp [hqueue]⟩
  | queried rest stats hb hi => exact hkeep (by simp [queues, takes, hb, hi]) rfl rfl rfl
  | cleared rest hb hi => exact absurd (by simp [takes, hb, hi]) hclear
  | halted e rest hb he => exact .inr ⟨rfl, .inl ⟨rfl, rfl⟩⟩
  | connected cookies hl => exact absurd rfl hconnected
  | ended e clean he =>
    -- Only an attempt can fail now, and it is not the first failure after an open.
    have hq : c.queues e = none := by cases he <;> exact hnone rfl
    rw [hq, if_neg (by simp [hback])]
    exact .inl ⟨.inr ⟨_, rfl⟩, isIdle_escalate hs.ceiling_pos, hawaiting, by simpa using hqueue⟩
  | redialled secs session hl hcheck =>
    rw [hnone rfl]
    exact .inl ⟨.inl ⟨_, rfl⟩, hback, hawaiting, by simpa using hqueue⟩
  | rotated secs session hl hcheck => exact .inr ⟨rfl, .inr (Session.rotated_of_check hcheck)⟩
  | queuedOpen r rest connection hl hi hc => simp [hl, Link.connection?] at hnotOpen
  | queuedDialled r rest session hl hi hc hcheck | queuedRotated r rest session hl hi hc hcheck =>
    simp [hl] at hlink
  | answered b connection seq outcome r outbox hl hj ht => simp [hl, Link.connection?] at hnotOpen
  | drained connection hl hq => simp [hl, Link.connection?] at hnotOpen
  | skipped connection r rest hl hq hc | handed connection r rest hl hq hc =>
    simp [hl, Link.connection?] at hnotOpen
  | taken connection r hl => simp [hl, Link.connection?] at hnotOpen
  | _ => exact hkeep (hnone rfl) rfl rfl rfl

/-- **However many handshakes fail**, the queue only grows by what the loop queues. -/
theorem Pausing.run {es : List Event} (hp : Pausing waiting c) (hs : c.Steady)
    (hconnected : Event.connected ∉ es) (hclear : Command.clear ∉ c.along takes es)
    (hdial : ∃ cookies, (c.run es).link = .connecting cookies) :
    Pausing (waiting ++ c.along queues es) (c.run es) := by
  induction es generalizing c waiting with
  | nil => simpa [along] using hp
  | cons e es ih =>
    simp only [along, List.mem_append, Option.mem_toList, List.mem_cons, not_or]
      at hclear hconnected
    have ht := step_transition c e
    rcases ht.pausing hs hp (Ne.symm hconnected.1) hclear.1 with hpausing | hdead
    · have hrun := ih hpausing (ht.steady hs) hconnected.2 hclear.2 hdial
      simpa [along, List.append_assoc] using hrun
    · -- A client that stopped or rotated dials no more, so no handshake was under way.
      obtain ⟨hlink, -⟩ := run_keeps (P := Dead) (fun hd ht => ht.dead hd) hdead es
      obtain ⟨cookies, hl⟩ := hdial
      rw [run_cons, hlink] at hl
      cases hl

/-! ## Emptying the queue -/

/-- A connection is being handed the queue, which still holds these requests. -/
structure Emptying (connection : Nat) (waiting : List Request) (c : Client) : Prop where
  busy : c.link.isBusy = true
  link : c.link.connection? = some connection
  queue : c.outbox.queue = waiting

/-- What is left of the queue after events that came while it was being emptied. -/
def Emptied (connection : Nat) (left : List Request) (c : Client) : Prop :=
  Emptying connection left c ∨ (c.link = .opened connection ∧ left = []) ∨
    ∃ secs, c.link = .waiting secs

/-- **One event reaches at most the head of the queue.** -/
theorem Transition.emptying (h : Transition c e c') (hc : Emptying connection waiting c) :
    ∃ left, (c.reaches e).toList.map (·.1) ++ left = waiting ∧ Emptied connection left c' := by
  obtain ⟨hbusy, hlink, rfl⟩ := hc
  have hsame : c.reaches e = none → c'.link = c.link → c'.outbox.queue = c.outbox.queue →
      ∃ left, (c.reaches e).toList.map (·.1) ++ left = c.outbox.queue ∧
        Emptied connection left c' := by
    intro hr hl hq
    refine ⟨c.outbox.queue, by simp [hr], .inl ⟨?_, ?_, hq⟩⟩
    · rw [hl]
      exact hbusy
    · rw [hl]
      exact hlink
  cases h with
  | quiet e jar session handlers held new hnew hr hm => exact hsame hm.reaches rfl rfl
  | asked e command hc hs hm => exact hsame hm.reaches rfl rfl
  | drained k hl hq =>
    rw [hl] at hlink
    cases hlink
    exact ⟨[], by simp [reaches, hl, hq], .inr (.inl ⟨rfl, rfl⟩)⟩
  | skipped k r rest hl hq hc =>
    refine ⟨rest, by simp [reaches, hl, hq], .inl ⟨?_, ?_, rfl⟩⟩
    · exact hbusy
    · exact hlink
  | handed k r rest hl hq hc =>
    rw [hl] at hlink
    cases hlink
    exact ⟨rest, by simp [reaches, hl, hq], .inl ⟨rfl, rfl, rfl⟩⟩
  | taken k r hl =>
    rw [hl] at hlink
    cases hlink
    exact ⟨c.outbox.queue, by simp [reaches], .inl ⟨rfl, rfl, rfl⟩⟩
  | ended e clean he =>
    -- The request whose transmission failed was taken off the queue when it was handed over.
    exact ⟨c.outbox.queue, by simp [he.passive.reaches], .inr (.inr ⟨_, rfl⟩)⟩
  | halted e rest hb he => simp [hbusy] at hb
  | dropped r rest hb hi hc => simp [hbusy] at hb
  | cleared rest hb hi => simp [hbusy] at hb
  | queried rest stats hb hi => simp [hbusy] at hb
  | queuedLater r rest hl hi hc =>
    rcases hl with ⟨_, hl⟩ | ⟨_, hl⟩ <;> simp [hl, Link.isBusy] at hbusy
  | queuedOpen | queuedDialled | queuedRotated | connected | answered | redialled | rotated =>
    simp_all [Link.isBusy]
  | _ => exact hsame rfl rfl rfl

/-- Once the queue is no longer being emptied, no more events come. -/
theorem Emptied.cases {left : List Request} {ds : List Event} (h : Emptied connection left c)
    (hd : c.drains ds = true) : Emptying connection left c ∨ ds = [] := by
  refine h.imp id fun h => ?_
  have hidle : c.link.isBusy = false := by
    rcases h with ⟨hl, -⟩ | ⟨_, hl⟩ <;> rw [hl] <;> rfl
  cases ds with
  | nil => rfl
  | cons e ds => simp [drains, hidle] at hd

/-- **The queue is reached from its head on**, in its order. -/
theorem Emptying.run {ds : List Event} (hc : Emptying connection waiting c)
    (hd : c.drains ds = true) :
    ∃ left, (c.along reaches ds).map (·.1) ++ left = waiting ∧
      Emptied connection left (c.run ds) := by
  induction ds generalizing c waiting with
  | nil => exact ⟨waiting, rfl, .inl hc⟩
  | cons e ds ih =>
    simp only [drains, Bool.and_eq_true] at hd
    obtain ⟨left, rfl, hleft⟩ := (step_transition c e).emptying hc
    rcases hleft.cases hd.2 with hmore | rfl
    · obtain ⟨left', rfl, hleft'⟩ := ih hmore hd.2
      exact ⟨left', by simp [along, List.append_assoc], hleft'⟩
    · exact ⟨left, by simp [along], hleft⟩

/-- What an event hands over is what it reaches, if somebody still waits for it. -/
theorem hands_of_link (hl : c.link.connection? = some connection) (e : Event) :
    (c.hands e).toList = ((c.reaches e).toList.filter (·.2)).map fun q => (connection, q.1) := by
  unfold hands reaches
  cases e with
  | next =>
    cases hlink : c.link with
    | draining k =>
      rw [hlink] at hl
      cases hl
      cases c.outbox.queue.head? with
      | none => rfl
      | some r => cases hc : c.isCancelled r.seq <;> simp [hc]
    | _ => rfl
  | _ => cases c.link <;> rfl

/-- What is handed over while the queue is emptied is what is reached, if somebody still waits. -/
theorem Emptying.handedIn_eq {ds : List Event} (hc : Emptying connection waiting c)
    (hd : c.drains ds = true) :
    c.handedIn ds = ((c.along reaches ds).filter (·.2)).map fun q => (connection, q.1) := by
  rw [Client.handedIn_eq]
  induction ds generalizing c waiting with
  | nil => rfl
  | cons e ds ih =>
    simp only [drains, Bool.and_eq_true] at hd
    simp only [along, List.filter_append, List.map_append, hands_of_link hc.link]
    congr 1
    obtain ⟨left, -, hleft⟩ := (step_transition c e).emptying hc
    rcases hleft.cases hd.2 with hmore | rfl
    · exact ih hmore hd.2
    · rfl

/-! ## The whole replay -/

/-- What was reached of the requests that a new connection is to be handed, and what became of
them: up to the first failure every one of them in this order, except those that nobody waits
for. -/
structure Replayed (expected : List Request) (connection : Nat) (reached : List (Request × Bool))
    (c : Client) : Prop where
  reached_prefix : reached.map (·.1) <+: expected
  /-- While the connection takes requests, the rest is still to come. -/
  remaining : c.link.isBusy = true → reached.map (·.1) ++ c.outbox.queue = expected
  /-- Once the loop listens to the connection, everything was reached. -/
  complete : c.link = .opened connection → reached.map (·.1) = expected
  handed : c.handedTo connection = (reached.filter (·.2)).map (·.1)

/-- A handshake that succeeds lets the queue be emptied into a connection that was handed nothing
before. -/
theorem Steady.connected {cookies : Option String} (hs : c.Steady)
    (hl : c.link = .connecting cookies) :
    Emptying c.connections c.outbox.queue (c.step .connected) ∧
      (c.step .connected).handedTo c.connections = [] := by
  have hstep : c.step .connected = { c with
      backoff := c.backoff.reset
      link := .draining c.connections
      connections := c.connections + 1
      history := .opened c.connections :: c.history } := by
    simp only [step, hl, Client.connected, flush, note]
  rw [hstep]
  refine ⟨⟨rfl, rfl, rfl⟩, List.map_eq_nil_iff.2 (List.filter_eq_nil_iff.2 fun h hmem => ?_)⟩
  have hold : h ∈ c.handOvers := by simpa [handOvers, List.filterMap_cons] using hmem
  have hlt := hs.handed h hold
  simpa using Nat.ne_of_lt hlt

/-- What one connection was handed over a run that empties the queue into it. -/
theorem Emptying.handedTo_run {ds : List Event} (hc : Emptying connection waiting c)
    (hd : c.drains ds = true) :
    (c.run ds).handedTo connection
      = c.handedTo connection ++ ((c.along reaches ds).filter (·.2)).map (·.1) := by
  rw [handedTo, run_handOvers, hc.handedIn_eq hd, List.filter_append, List.map_append, handedTo]
  congr 1
  rw [List.filter_eq_self.2 (by simp), List.map_map]
  rfl

/-- The queue that a connection finds when it opens, as far as the connection takes it. -/
theorem replayed_of_queue {cookies : Option String} {ds : List Event} (hs : c.Steady)
    (hl : c.link = .connecting cookies) (hd : (c.step .connected).drains ds = true) :
    Replayed c.outbox.queue c.connections ((c.step .connected).along reaches ds)
      ((c.step .connected).run ds) := by
  obtain ⟨hempty, hnone⟩ := hs.connected hl
  obtain ⟨left, hqueue, hleft⟩ := hempty.run hd
  refine ⟨⟨left, hqueue⟩, fun hbusy => ?_, fun hopen => ?_, ?_⟩
  · rcases hleft with hleft | ⟨hl, -⟩ | ⟨_, hl⟩
    · rw [hleft.queue, hqueue]
    · simp [hl, Link.isBusy] at hbusy
    · simp [hl, Link.isBusy] at hbusy
  · rcases hleft with hleft | ⟨-, rfl⟩ | ⟨_, hl⟩
    · have hbusy := hleft.busy
      simp [hopen, Link.isBusy] at hbusy
    · simpa using hqueue
    · rw [hopen] at hl
      cases hl
  · rw [hempty.handedTo_run hd, hnone, List.nil_append]

/-- An open connection ends uncleanly at `e`. Over `es` handshakes may fail and requests may be
queued, but no command to clear is taken, and the last handshake is under way. It succeeds, and
over `ds` the queue is emptied into the new connection. -/
structure Reconnects (c : Client) (e : Event) (es ds : List Event) : Prop where
  broken : c.breaks e = true
  unconnected : Event.connected ∉ es
  uncleared : Command.clear ∉ (c.step e).along takes es
  dialled : ∃ cookies, ((c.step e).run es).link = .connecting cookies
  drained : (((c.step e).run es).step .connected).drains ds = true

/-- What the new connection is to be handed, and is handed. -/
theorem Reconnects.replayed {es ds : List Event} (h : Reconnects c e es ds) (hc : c.Reachable) :
    Replayed (c.unanswered ++ c.outbox.queue ++ (c.step e).along queues es)
      ((c.step e).run es).connections
      ((((c.step e).run es).step .connected).along reaches ds)
      ((((c.step e).run es).step .connected).run ds) := by
  have hsteady := reachable_steady hc
  -- The end of the connection puts the table in front of the queue.
  have hbroken : Pausing (c.unanswered ++ c.outbox.queue) (c.step e) := by
    rw [breaks_step hsteady h.broken, unanswered_eq hc, ← hsteady.valid.inOrder_eq]
    exact ⟨.inr ⟨_, rfl⟩, isIdle_escalate hsteady.ceiling_pos, rfl, rfl⟩
  have hpausing := hbroken.run (reachable_steady (hc.step e)) h.unconnected h.uncleared h.dialled
  obtain ⟨cookies, hl⟩ := h.dialled
  have hreplayed := replayed_of_queue (reachable_steady ((hc.step e).run es)) hl h.drained
  rw [hpausing.queue] at hreplayed
  exact hreplayed

/-- **Replay is complete, in order and of the same requests.** The new connection is handed the
unanswered requests, which are the whole table, by their last transmission, then what was left
of the queue, then what was queued since, as far as the connection takes them. -/
theorem replay_complete {es ds : List Event} (hc : c.Reachable) (h : Reconnects c e es ds) :
    c.unanswered.Perm (c.outbox.awaiting.map (·.2.request)) ∧
    Replayed (c.unanswered ++ c.outbox.queue ++ (c.step e).along queues es)
      ((c.step e).run es).connections
      ((((c.step e).run es).step .connected).along reaches ds)
      ((((c.step e).run es).step .connected).run ds) :=
  ⟨.of_eq (unanswered_eq hc), h.replayed hc⟩

/-- A request was transmitted, and its connection was handed another one. -/
def interrupted : List Event :=
  transmission ++ [.send "/b" .empty .raw, .finish 2, .command, .next]

/-- A third request is queued, and one handshake fails. -/
def redialling : List Event :=
  [.send "/c" .empty .raw, .finish 3, .command, .retry, .refused, .retry]

/-- A connection breaks on the second request; the next one is handed all three. -/
theorem replay_complete_broken :
    ((((((fresh.run interrupted).step .broken).run redialling).step .connected).run
      [.next, .taken, .next, .taken, .next, .taken, .next]).handedTo 1).map (·.seq) =
      [1, 2, 3] := by
  have hreconnects : Reconnects (fresh.run interrupted) .broken redialling
      [.next, .taken, .next, .taken, .next, .taken, .next] :=
    ⟨by rfl, by simp [redialling], by decide +kernel, ⟨none, by decide +kernel⟩,
      by decide +kernel⟩
  have hhanded := (replay_complete (reachable_fresh interrupted) hreconnects).2.handed
  have hsecond : (((fresh.run interrupted).step .broken).run redialling).connections = 1 := by
    decide +kernel
  rw [hsecond] at hhanded
  rw [hhanded]
  decide +kernel

end Courier.Client

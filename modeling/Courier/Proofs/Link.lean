import Courier.Proofs.Run

/-!
# The link, the outbox and the backoff agree

* `Steady`: **what every event keeps.** A client without a connection and without a plan for
  one has nothing to transmit, and the first pause after an open is the only one that finds
  requests in the table.
* `handedIn_eq`: **a run adds to the history what its events hand over**, and nothing else.
* `breaks_step`: the unclean end of an open connection puts the whole table into the queue.
* `link_agrees`: **what the link tells** of the outbox and the backoff, at any boundary of the
  loop.
-/

namespace Courier.Client

variable {c c' : Client} {e : Event}

/-- The link agrees with the outbox, the backoff and the history. -/
structure Steady (c : Client) : Prop where
  valid : c.outbox.Valid
  /-- A queue is emptied before the loop listens again. -/
  opened : ∀ connection, c.link = .opened connection → c.outbox.queue = []
  up : ∀ connection, c.link.connection? = some connection →
    c.backoff.isIdle = true ∧ connection < c.connections
  down : c.link = .disconnected → c.outbox.queue = [] ∧ c.outbox.awaiting = []
  dialling : ∀ cookies, c.link = .connecting cookies → c.backoff.isIdle = true →
    c.outbox.awaiting = []
  waiting : ∀ secs, c.link = .waiting secs → c.backoff.isIdle = false
  ceiling_pos : 0 < c.backoff.ceiling
  /-- Whatever was handed over was handed to a connection of the past or the present. -/
  handed : ∀ h ∈ c.handOvers, h.1 < c.connections

theorem steady_start (config : Config) (session : Session) (jar : Jar) :
    (start config session jar).Steady := by
  have hceiling : 0 < (Backoff.new config.maxBackoff).ceiling :=
    Nat.lt_of_lt_of_le Nat.zero_lt_one (Nat.le_max_left _ _)
  refine ⟨Outbox.valid_of_nil rfl, ?_, ?_, fun _ => ⟨rfl, rfl⟩, ?_, ?_, hceiling, ?_⟩
  all_goals simp [start, Link.connection?, handOvers]

/-- The pause after a failure is never none. -/
theorem isIdle_escalate {b : Backoff} (h : 0 < b.ceiling) : b.escalate.isIdle = false := by
  simp only [Backoff.escalate, Backoff.isIdle, beq_eq_false_iff_ne]
  split <;> omega

/-- A request is handed over when the loop reaches it and somebody still waits for it. -/
theorem hands_eq_some_iff {connection : Nat} {r : Request} :
    c.hands e = some (connection, r) ↔ e = .next ∧ c.link = .draining connection ∧
      c.outbox.queue.head? = some r ∧ c.isCancelled r.seq = false := by
  unfold hands reaches
  cases e <;> cases c.link <;> simp
  rename_i connection'
  cases c.outbox.queue.head? with
  | none => simp
  | some q =>
    cases hc : c.isCancelled q.seq <;> simp [hc]
    all_goals
      rintro - rfl
      exact hc

theorem hands_of_reaches (h : c.reaches e = none) : c.hands e = none := by
  cases hl : c.link <;> simp [hands, h, hl]

/-- **The history records what an event hands over.** -/
theorem Transition.handOvers_eq (h : Transition c e c') :
    c'.handOvers = c.handOvers ++ (c.hands e).toList := by
  have hnone : c.reaches e = none → c.hands e = none := hands_of_reaches
  unfold handOvers
  cases h with
  | quiet e jar session handlers held new hnew hr hm =>
    simp [handed?_quiet hnew, hnone hm.reaches]
  | asked e command hc hs hm => simp [hnone hm.reaches]
  | halted e rest hb he => simp [hnone he.passive.reaches]
  | ended e clean he => simp [hnone he.passive.reaches, List.filterMap_cons]
  | drained connection hl hq => simp [hands, reaches, hl, hq]
  | skipped connection r rest hl hq hc | handed connection r rest hl hq hc =>
    simp [hands, reaches, hl, hq, hc, List.filterMap_cons]
  | _ => simp [hnone rfl, List.filterMap_cons]

theorem run_handOvers_along (c : Client) (es : List Event) :
    (c.run es).handOvers = c.handOvers ++ c.along hands es := by
  induction es generalizing c with
  | nil => simp [along]
  | cons e es ih =>
    rw [run_cons, ih, (step_transition c e).handOvers_eq, along, List.append_assoc]

/-- **A run adds to the history what its events hand over**, one after the other. -/
theorem handedIn_eq (c : Client) (es : List Event) : c.handedIn es = c.along hands es := by
  rw [handedIn, run_handOvers_along, List.drop_left]

/-- What was recorded before a run stays on record. -/
theorem run_handOvers (c : Client) (es : List Event) :
    (c.run es).handOvers = c.handOvers ++ c.handedIn es := by
  rw [handedIn_eq, run_handOvers_along]

theorem handedIn_singleton (c : Client) (e : Event) : c.handedIn [e] = (c.hands e).toList := by
  rw [handedIn_eq, along, along, List.append_nil]

theorem handedIn_append (c : Client) (a b : List Event) :
    c.handedIn (a ++ b) = c.handedIn a ++ (c.run a).handedIn b := by
  simp only [handedIn_eq, along_append]

/-- Whatever a run hands over was at the head of the queue, and somebody waited for it. -/
theorem mem_handedIn {q : Nat × Request} {es : List Event} : q ∈ c.handedIn es ↔
    ∃ before after, es = before ++ .next :: after ∧ (c.run before).link = .draining q.1 ∧
      (c.run before).outbox.queue.head? = some q.2 ∧
      (c.run before).isCancelled q.2.seq = false := by
  rw [handedIn_eq, mem_along]
  constructor
  · rintro ⟨before, e, after, rfl, hhands⟩
    obtain ⟨rfl, h⟩ := hands_eq_some_iff.1 hhands
    exact ⟨before, after, rfl, h⟩
  · rintro ⟨before, after, rfl, h⟩
    exact ⟨before, .next, after, rfl, hands_eq_some_iff.2 ⟨rfl, h⟩⟩

/-- It was in the queue then. -/
theorem queued_of_mem_handedIn {q : Nat × Request} {es : List Event} (h : q ∈ c.handedIn es) :
    ∃ before after, es = before ++ .next :: after ∧ q.2 ∈ (c.run before).outbox.queue := by
  obtain ⟨before, after, heq, -, hhead, -⟩ := mem_handedIn.1 h
  exact ⟨before, after, heq, List.mem_of_head? hhead⟩

theorem Transition.connections_le (h : Transition c e c') : c.connections ≤ c'.connections := by
  cases h with
  | connected cookies hl => exact Nat.le_succ _
  | _ => exact Nat.le_refl _

/-- Hand-overs go to the connection that is up. -/
theorem Transition.handed_lt (h : Transition c e c') (hs : c.Steady) :
    ∀ o ∈ c'.handOvers, o.1 < c'.connections := by
  intro o ho
  rw [h.handOvers_eq, List.mem_append, Option.mem_toList] at ho
  refine Nat.lt_of_lt_of_le ?_ h.connections_le
  rcases ho with ho | ho
  · exact hs.handed o ho
  · obtain ⟨-, hl, -⟩ := hands_eq_some_iff.1 ho
    exact (hs.up o.1 (by rw [hl]; rfl)).2

/-- Nothing that matters changes. -/
theorem Steady.of_same (hs : c.Steady) (ho : c'.outbox = c.outbox) (hl : c'.link = c.link)
    (hb : c'.backoff = c.backoff) (hc : c'.connections = c.connections)
    (hh : ∀ o ∈ c'.handOvers, o.1 < c'.connections) : c'.Steady where
  valid := ho ▸ hs.valid
  opened := by
    rw [ho, hl]
    exact hs.opened
  up := by
    rw [hb, hl, hc]
    exact hs.up
  down := by
    rw [ho, hl]
    exact hs.down
  dialling := by
    rw [ho, hb, hl]
    exact hs.dialling
  waiting := by
    rw [hb, hl]
    exact hs.waiting
  ceiling_pos := hb ▸ hs.ceiling_pos
  handed := hh

/-- **What every event keeps.** -/
theorem Transition.steady (h : Transition c e c') (hs : c.Steady) : c'.Steady := by
  have hvalid := h.valid hs.valid
  have hhanded := h.handed_lt hs
  -- Most fields are about one kind of link: an event that ends at another kind keeps them.
  cases h with
  | queuedOpen r rest connection hl hi hc =>
    have hup := hs.up connection (by rw [hl]; rfl)
    exact ⟨hvalid, by simp, by simpa [Link.connection?] using hup, by simp, by simp, by simp,
      hs.ceiling_pos, hhanded⟩
  | queuedLater r rest hl hi hc =>
    rcases hl with ⟨cookies, hl⟩ | ⟨secs, hl⟩
    · have hd := hs.dialling cookies hl
      exact ⟨hvalid, by simp [hl], by simp [hl, Link.connection?], by simp [hl],
        by simpa [hl] using hd, by simp [hl], hs.ceiling_pos, hhanded⟩
    · have hw := hs.waiting secs hl
      exact ⟨hvalid, by simp [hl], by simp [hl, Link.connection?], by simp [hl], by simp [hl],
        by simpa [hl] using hw, hs.ceiling_pos, hhanded⟩
  | queuedDialled r rest session hl hi hc hcheck =>
    have hempty := (hs.down hl).2
    exact ⟨hvalid, by simp, by simp [Link.connection?], by simp, by simp [hempty], by simp,
      hs.ceiling_pos, hhanded⟩
  | queuedRotated r rest session hl hi hc hcheck | halted e rest hb he
  | rotated secs session hl hcheck =>
    exact ⟨hvalid, by simp, by simp [Link.connection?], by simp, by simp, by simp,
      hs.ceiling_pos, hhanded⟩
  | cleared rest hb hi =>
    exact ⟨hvalid, by simp, hs.up, by simp, by simp, hs.waiting, hs.ceiling_pos, hhanded⟩
  | connected cookies hl =>
    exact ⟨hvalid, by simp, by simp [Link.connection?, Backoff.reset, Backoff.isIdle], by simp,
      by simp, by simp, hs.ceiling_pos, hhanded⟩
  | ended e clean he =>
    exact ⟨hvalid, by simp, by simp [Link.connection?], by simp, by simp,
      by simp [isIdle_escalate hs.ceiling_pos], hs.ceiling_pos, hhanded⟩
  | answered b connection seq outcome r outbox hl hj ht =>
    obtain ⟨before, stamp, after, heq, rfl, -⟩ := hs.valid.take?_eq_some ht
    exact ⟨hvalid, hs.opened, hs.up, by simp [hl], by simp [hl], by simp [hl], hs.ceiling_pos,
      hhanded⟩
  | redialled secs session hl hcheck =>
    have hw := hs.waiting secs hl
    exact ⟨hvalid, by simp, by simp [Link.connection?], by simp, by simp [hw], by simp,
      hs.ceiling_pos, hhanded⟩
  | drained connection hl hq =>
    have hup := hs.up connection (by rw [hl]; rfl)
    exact ⟨hvalid, by simp [hq], by simpa [Link.connection?] using hup, by simp, by simp, by simp,
      hs.ceiling_pos, hhanded⟩
  | skipped connection r rest hl hq hc =>
    exact ⟨hvalid, by simp [hl], hs.up, by simp [hl], by simp [hl], by simp [hl], hs.ceiling_pos,
      hhanded⟩
  | handed connection r rest hl hq hc | taken connection r hl =>
    have hup := hs.up connection (by rw [hl]; rfl)
    exact ⟨hvalid, by simp, by simpa [Link.connection?] using hup, by simp, by simp, by simp,
      hs.ceiling_pos, hhanded⟩
  | _ => exact hs.of_same rfl rfl rfl rfl hhanded

theorem reachable_steady (h : c.Reachable) : c.Steady :=
  h.invariant steady_start fun hs ht => ht.steady hs

/-! ## The end of a connection -/

/-- **The unclean end of an open connection** puts the whole table in front of the queue. -/
theorem breaks_step (hs : c.Steady) (hb : c.breaks e = true) :
    c.step e = { c with
      outbox := c.outbox.requeue.2
      backoff := c.backoff.escalate
      link := .waiting c.backoff.escalate.secs
      history := .ended false c.backoff.escalate.secs :: c.history } := by
  unfold breaks at hb
  split at hb
  · split at hb
    · rename_i clean connection hl
      have hidle := (hs.up connection (by rw [hl]; rfl)).1
      simp only [Bool.not_eq_true'] at hb
      subst hb
      have hstep : c.step (.closed false) = c.disconnect false := by simp only [step, hl]
      rw [hstep, disconnect_eq false (by simp [hl]), if_pos ⟨hidle, rfl⟩]
    · cases hb
  · split at hb
    · rename_i connection r hl
      have hidle := (hs.up connection (by rw [hl]; rfl)).1
      have hstep : c.step .broken = c.disconnect false := by simp only [step, hl]
      rw [hstep, disconnect_eq false (by simp [hl]), if_pos ⟨hidle, rfl⟩]
    · cases hb
  · cases hb

/-! ## At the boundaries of the loop -/

theorem Transition.config_eq (h : Transition c e c') : c'.config = c.config := by
  cases h <;> rfl

theorem run_config (c : Client) (es : List Event) : (c.run es).config = c.config :=
  run_keeps (P := fun d => d.config = c.config) (fun hd ht => ht.config_eq.trans hd) rfl es

/-- The pauses keep to the settings. -/
structure Paced (c : Client) : Prop where
  ceiling_eq : c.backoff.ceiling = max 1 c.config.maxBackoff.secs
  secs_le : c.backoff.secs ≤ c.backoff.ceiling
  /-- A pause is as long as the backoff was when it began. -/
  waiting : ∀ secs, c.link = .waiting secs → secs = c.backoff.secs

theorem paced_start (config : Config) (session : Session) (jar : Jar) :
    (start config session jar).Paced :=
  ⟨rfl, Nat.zero_le _, by simp [start]⟩

theorem Transition.paced (h : Transition c e c') (hp : c.Paced) : c'.Paced := by
  have hpos : 0 < c.backoff.ceiling := by
    have := hp.ceiling_eq
    omega
  cases h with
  | connected cookies hl => exact ⟨hp.ceiling_eq, Nat.zero_le _, by simp⟩
  | ended e clean he => exact ⟨hp.ceiling_eq, Backoff.secs_le_ceiling hpos, by simp⟩
  | queuedOpen | queuedDialled | queuedRotated | halted | redialled | rotated | drained | handed
  | taken =>
    exact ⟨hp.ceiling_eq, hp.secs_le, by simp⟩
  | _ => exact ⟨hp.ceiling_eq, hp.secs_le, hp.waiting⟩

theorem reachable_paced (h : c.Reachable) : c.Paced :=
  h.invariant paced_start fun hp ht => ht.paced hp

/-- What the link tells, when the longest delay is as given. The loop is at a boundary when it
is not emptying the queue. -/
structure Agreement (longest : Duration) (c : Client) : Prop where
  /-- An open connection was handed everything that there is to transmit. -/
  opened : ∀ connection, c.link.connection? = some connection → c.link.isBusy = false →
    c.outbox.queue = [] ∧ c.backoff.isIdle = true
  /-- No request is stranded without an attempt to connect or a plan for one. -/
  disconnected : c.link = .disconnected → c.outbox.queue = [] ∧ c.outbox.awaiting = []
  waiting : ∀ secs, c.link = .waiting secs →
    secs = c.backoff.secs ∧ 1 ≤ secs ∧ secs ≤ max 1 longest.secs
  /-- The first attempt after an open finds nothing to transmit again. -/
  connecting : ∀ cookies, c.link = .connecting cookies → c.backoff.isIdle = true →
    c.outbox.awaiting = []

/-- **The link, the outbox and the backoff agree** after any run. -/
theorem link_agrees (config : Config) (session : Session) (jar : Jar) (events : List Event) :
    Agreement config.maxBackoff ((start config session jar).run events) := by
  have hreach := (reachable_start config session jar).run events
  have hs := reachable_steady hreach
  have hp := reachable_paced hreach
  refine ⟨fun connection hc hb => ?_, hs.down, fun secs hl => ?_, hs.dialling⟩
  · refine ⟨?_, (hs.up connection hc).1⟩
    -- Of the links with a connection, only the one that the loop listens to is at a boundary.
    cases hl : ((start config session jar).run events).link with
    | opened k => exact hs.opened k hl
    | draining k => simp [hl, Link.isBusy] at hb
    | sending k r => simp [hl, Link.isBusy] at hb
    | disconnected => simp [hl, Link.connection?] at hc
    | connecting cookies => simp [hl, Link.connection?] at hc
    | waiting secs => simp [hl, Link.connection?] at hc
  · have hidle := hs.waiting secs hl
    have hsecs := hp.waiting secs hl
    have hle := hp.secs_le
    rw [hp.ceiling_eq, run_config] at hle
    rw [Backoff.isIdle, beq_eq_false_iff_ne] at hidle
    subst hsecs
    exact ⟨rfl, Nat.pos_of_ne_zero hidle, hle⟩

end Courier.Client

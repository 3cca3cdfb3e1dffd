import Courier.Proofs.Fate
import Courier.Proofs.Serve

/-!
# The same run over a connection that is never lost

Beside a client whose connections come and go stands one that has a single connection. The
application does the same to both; whatever the loop of the first one queues, the connection of
the second one takes at once, and it brings the answers that settle something.

* `front`: what a client shows its application, and `Mirrors`: what the two clients have in common.
* `Echo`: what the second client does at an event of the first one.
* `Mirrors.application`, `Mirrors.loop` and `Mirrors.received`: **whatever happens to the first one,
  the second one follows.**
-/

namespace Courier.Client

variable {c c' d : Client} {e : Event} {issued : List ReqSeq} {given : Nat}

/-- How far the link of a client is and that of the one with a single connection. -/
inductive Phase : Link → Link → Nat → Prop
  | idle : Phase .disconnected .disconnected 0
  | dialling (l : Link) (hl : (∃ cookies, l = .connecting cookies) ∨ ∃ secs, l = .waiting secs)
      (cookies : Option String) : Phase l (.connecting cookies) 0
  | up (l : Link) (hl : l ≠ .disconnected) : Phase l (.opened 0) 1

theorem Phase.pausing {l l' l₂ : Link} {k : Nat} (h : Phase l l₂ k) (hl : l ≠ .disconnected)
    (hl' : (∃ cookies, l' = .connecting cookies) ∨ ∃ secs, l' = .waiting secs) : Phase l' l₂ k := by
  cases h with
  | idle => exact absurd rfl hl
  | dialling l _ cookies => exact .dialling l' hl' cookies
  | up l _ => exact .up l' (by rcases hl' with ⟨_, rfl⟩ | ⟨_, rfl⟩ <;> simp)

theorem Phase.connected {l l₂ : Link} {k connection : Nat} (h : Phase l l₂ k)
    (hl : l.connection? = some connection) : l₂ = .opened 0 ∧ k = 1 := by
  cases h with
  | idle => cases hl
  | dialling l hdial cookies => rcases hdial with ⟨_, rfl⟩ | ⟨_, rfl⟩ <;> cases hl
  | up l _ => exact ⟨rfl, rfl⟩

theorem Phase.stays {l l' l₂ : Link} {k connection : Nat} (h : Phase l l₂ k)
    (hl : l.connection? = some connection) (hl' : l' ≠ .disconnected) : Phase l' l₂ k := by
  obtain ⟨rfl, rfl⟩ := h.connected hl
  exact .up l' hl'

theorem Phase.dialling_or_up {l l₂ : Link} {k : Nat} (h : Phase l l₂ k) (hl : l ≠ .disconnected) :
    (∃ cookies, l₂ = .connecting cookies ∧ k = 0) ∨ l₂ = .opened 0 ∧ k = 1 := by
  cases h with
  | idle => exact absurd rfl hl
  | dialling l _ cookies => exact .inl ⟨cookies, rfl, rfl⟩
  | up l _ => exact .inr ⟨rfl, rfl⟩

theorem Phase.disconnected {l l₂ : Link} {k : Nat} (h : Phase l l₂ k) (hl : l = .disconnected) :
    l₂ = .disconnected ∧ k = 0 := by
  cases h with
  | idle => exact ⟨rfl, rfl⟩
  | dialling l hdial cookies => rcases hdial with ⟨_, rfl⟩ | ⟨_, rfl⟩ <;> cases hl
  | up l hne => exact absurd hl hne

theorem Phase.connections_le {l l₂ : Link} {k : Nat} (h : Phase l l₂ k) : k ≤ 1 := by
  cases h <;> simp

theorem Phase.not_busy {l l₂ : Link} {k : Nat} (h : Phase l l₂ k) : l₂.isBusy = false := by
  cases h <;> rfl

/-- What a client shows its application: its desk, what is posted, the cookies and what was
settled. -/
structure Front where
  desk : Desk
  inbox : List Command
  jar : Jar
  outcomes : List (ReqSeq × Outcome)

def front (c : Client) : Front := ⟨c.desk, c.inbox, c.jar, c.outcomes⟩

/-- What a client `c` and the client `d` with a single connection have in common. -/
structure Shares (c d : Client) : Prop where
  front_eq : d.front = c.front
  running : d.stopped = false
  uncancelled : d.cancelled = []
  /-- Only the first one checks its session when it connects again. -/
  trails : d.session.Trails c.session
  /-- What the first one has to transmit again, the second one has transmitted. -/
  carried : ∀ r, r ∈ d.outbox.carried ↔ r ∈ c.outbox.carried

theorem Shares.alike (h : Shares c d) : Alike c d := congrArg Front.desk h.front_eq

theorem Shares.inbox_eq (h : Shares c d) : d.inbox = c.inbox := congrArg Front.inbox h.front_eq

theorem Shares.jar_eq (h : Shares c d) : d.jar = c.jar := congrArg Front.jar h.front_eq

theorem Shares.outcomes_eq (h : Shares c d) : d.outcomes = c.outcomes :=
  congrArg Front.outcomes h.front_eq

/-- The next command is taken at both. -/
theorem Shares.front_rest (h : Shares c d) (rest : List Command) :
    { d.front with inbox := rest } = { c.front with inbox := rest } := by
  rw [h.front_eq]

/-- The client `d` follows the client `c` over a single connection. -/
structure Mirrors (c d : Client) : Prop extends Shares c d where
  phase : Phase c.link d.link d.connections

theorem mirrors_start (config : Config) (cookieName : String) (jar : Jar) :
    Mirrors (start config (.new cookieName) jar) (start config (.new cookieName) jar) where
  front_eq := rfl
  running := rfl
  uncancelled := rfl
  trails := Session.trails_new cookieName
  carried _ := Iff.rfl
  phase := .idle

/-- The events `gs` of the client `d` answer an event `e` of the client `c`. -/
structure Echo (c d : Client) (e : Event) (gs : List Event) : Prop where
  application : gs.filter Event.isApplication = [e].filter Event.isApplication
  lossless : ∀ g ∈ gs, g.isLoss = false
  allocates_eq : d.along allocates gs = (c.allocates e).toList
  receives_eq : d.along receives gs = (c.receives e).toList
  uncleared : .clear ∉ d.along takes gs
  /-- Of the frames that come in, those that settle something are taken over, and messages. -/
  hears : d.along hears gs = [] ∨ ∃ b, e = .received b ∧ gs = [.received b] ∧
    (∃ connection, c.link = .opened connection) ∧ ((∀ n, ¬ Addresses b n) ∨
      ∃ r, r ∈ c.inFlight ∧ r ∈ d.inFlight ∧ Addresses b r.seq ∧
        r.seq ∈ (d.step (.received b)).numbersAt .settled)

/-! ## Events of the application -/

/-- An event of the application leaves the outbox and the connection alone. -/
theorem Transition.application_eq (h : Transition c e c') (he : e.isApplication = true) :
    c'.outbox = c.outbox ∧ c'.link = c.link ∧ c'.connections = c.connections ∧
      ((∃ seq, e = .cancel seq) ∨ c'.cancelled = c.cancelled) := by
  cases h with
  | cancelled seq => exact ⟨rfl, rfl, rfl, .inl ⟨seq, rfl⟩⟩
  | halted e rest hb hhalts => cases hhalts <;> cases he
  | ended e clean hends => cases hends <;> cases he
  | quiet | numbered | reading | posted | forsaken | asked | readPosted | readFailed =>
    exact ⟨rfl, rfl, rfl, .inr rfl⟩
  | _ => cases he

theorem Mirrors.application (h : Mirrors c d) (he : e.isApplication = true)
    (hc : (c.step e).Calm) : Mirrors (c.step e) (d.step e) := by
  have hcalm := (step_transition c e).calm hc
  have htrails := h.alike.trails h.jar_eq h.trails he hc.unrotated
  have htogether := h.alike.application he ⟨hcalm.running, hc.unrotated⟩
    ⟨h.running, htrails.unrotated⟩
  obtain ⟨hoc, hlc, -, -⟩ := (step_transition c e).application_eq he
  obtain ⟨hod, hld, hkd, hcancel⟩ := (step_transition d e).application_eq he
  have huncancelled : (d.step e).cancelled = [] := by
    rcases hcancel with ⟨seq, rfl⟩ | hsame
    · have := hc.uncancelled
      simp [step, cancel] at this
    · exact hsame.trans h.uncancelled
  obtain ⟨commands, hic, hid⟩ := htogether.inbox
  obtain ⟨new, houtc, houtd⟩ := htogether.outcomes
  have hfront : (d.step e).front = (c.step e).front := by
    rw [front, front, show (d.step e).desk = (c.step e).desk from htogether.alike, hid, hic,
      htogether.jar h.jar_eq, houtd, houtc, h.inbox_eq, h.outcomes_eq]
  refine ⟨⟨hfront, ?_, huncancelled, htrails, ?_⟩, ?_⟩
  · exact ((step_transition d e).stopped_eq he).trans h.running
  · rw [hoc, hod]
    exact h.carried
  · rw [hlc, hld, hkd]
    exact h.phase

theorem Mirrors.echo_application (h : Mirrors c d) (he : e.isApplication = true)
    (hc : (c.step e).Calm) : Echo c d e [e] where
  application := rfl
  lossless g hg := by
    rw [List.mem_singleton.1 hg]
    cases e with
    | refused | closed | broken => cases he
    | _ => rfl
  allocates_eq := by
    rw [along, along, List.append_nil, h.alike.allocates_eq (h.application he hc).alike]
  receives_eq := by
    rw [along, along, List.append_nil, receives_of_application he, receives_of_application he]
  uncleared := by
    cases e with
    | command => cases he
    | _ => simp [along, takes]
  hears := by
    refine .inl ?_
    cases e with
    | received => cases he
    | _ => simp [along, Client.hears]

/-! ## Events of the loop and of the network -/

theorem echo_nothing (he : e.isApplication = false) (hr : c.receives e = none) :
    Echo c d e [] where
  application := by simp [he]
  lossless g hg := by cases hg
  allocates_eq := by simp [along, allocates_of_loop he]
  receives_eq := by simp [along, hr]
  uncleared := by simp [along]
  hears := .inl rfl

/-- The first client moves what it carries, or looks at its session, and the second one waits. -/
theorem Mirrors.wait (h : Mirrors c d) (he : e.isApplication = false) (hr : c.receives e = none)
    (hsame : c'.front = c.front) (ht : d.session.Trails c'.session)
    (hcarried : ∀ r, r ∈ c'.outbox.carried ↔ r ∈ c.outbox.carried)
    (hp : Phase c'.link d.link d.connections) :
    ∃ gs, Echo c d e gs ∧ Mirrors c' (d.run gs) := by
  have hfront : d.front = c'.front := h.front_eq.trans hsame.symm
  refine ⟨[], echo_nothing he hr, ⟨hfront, h.running, h.uncancelled, ht, fun r => ?_⟩, hp⟩
  exact (h.carried r).trans (hcarried r).symm

/-- The connection of the second client takes its whole queue. -/
theorem Shares.serve (h : Shares c d) (hd : Conserved issued given d)
    (hl : d.link = .draining 0) :
    Shares c (d.run (serve d.outbox.queue.length)) ∧
      (d.run (serve d.outbox.queue.length)).link = .opened 0 ∧
      (d.run (serve d.outbox.queue.length)).connections = d.connections := by
  obtain ⟨outbox, new, hrun, hperm, hquiet⟩ := serve_run _ hl rfl hd.valid hd.carried_nodup
    h.uncancelled
  rw [hrun]
  refine ⟨⟨?_, h.running, h.uncancelled, h.trails, fun r => hperm.mem_iff.trans (h.carried r)⟩, rfl,
    rfl⟩
  rw [← h.front_eq, front, outcomes, List.filterMap_append, hquiet]
  rfl

/-- What is observed of an event stays all there is while a connection takes what it is handed. -/
theorem along_cons_serve {α : Type} {f : Client → Event → Option α} {g : Event} {gs : List Event}
    (hgs : ∀ g ∈ gs, g = .next ∨ g = .taken) (hnext : ∀ c, f c .next = none)
    (htaken : ∀ c, f c .taken = none) : d.along f (g :: gs) = (f d g).toList := by
  have hquiet : (d.step g).along f gs = [] := by
    generalize d.step g = b
    induction gs generalizing b with
    | nil => rfl
    | cons g' gs ih =>
      have hnone : f b g' = none := by
        rcases hgs g' List.mem_cons_self with rfl | rfl
        · exact hnext b
        · exact htaken b
      rw [along, hnone, ih fun g hg => hgs g (List.mem_cons_of_mem _ hg)]
      rfl
  rw [along, hquiet, List.append_nil]

/-- The second client takes the command, and its connection what it is handed. -/
theorem echo_of_takes {gs : List Event} (hgs : ∀ g ∈ gs, g = .next ∨ g = .taken)
    (he : e = .command ∨ e = .connected) (ht : d.takes e = c.takes e)
    (hclear : c.takes e ≠ some .clear) : Echo c d e (e :: gs) where
  application := by
    have hnone : gs.filter Event.isApplication = [] := by
      refine List.filter_eq_nil_iff.2 fun g hg => ?_
      rcases hgs g hg with rfl | rfl <;> simp [Event.isApplication]
    rcases he with rfl | rfl <;> simp [Event.isApplication, hnone]
  lossless g hg := by
    rcases List.mem_cons.1 hg with rfl | hg
    · rcases he with rfl | rfl <;> rfl
    · rcases hgs g hg with rfl | rfl <;> rfl
  allocates_eq := by
    rw [along_cons_serve hgs (fun _ => rfl) fun _ => rfl]
    rcases he with rfl | rfl <;> rfl
  receives_eq := by
    rw [along_cons_serve hgs (fun _ => rfl) fun _ => rfl, Client.receives, ht, ← Client.receives]
  uncleared := by
    rw [along_cons_serve hgs (fun _ => rfl) fun _ => rfl, ht]
    exact fun h => hclear (Option.mem_toList.1 h)
  hears := by
    refine .inl ?_
    rw [along_cons_serve hgs (fun b => by simp [Client.hears]) fun b => by simp [Client.hears]]
    rcases he with rfl | rfl <;> simp [Client.hears]

theorem command_opened {connection : Nat} {r : Request} {rest : List Command}
    (hl : d.link = .opened connection) (hi : d.inbox = .enqueue r :: rest)
    (hcancel : d.cancelled = []) :
    d.step .command = { d with
      inbox := rest
      outbox := d.outbox.push r
      link := .draining connection
      history := .queued r :: d.history } := by
  simp [step, hl, Link.isBusy, takeCommand, hi, enqueue, isCancelled, hcancel, flush, note]

theorem command_query {rest : List Command} (hb : d.link.isBusy = false)
    (hi : d.inbox = .query :: rest) :
    d.step .command = { d with
      inbox := rest
      history := .reported (stats { d with inbox := rest }) :: d.history } := by
  simp [step, hb, takeCommand, hi, note]

theorem command_connecting {cookies : Option String} {r : Request} {rest : List Command}
    (hl : d.link = .connecting cookies) (hi : d.inbox = .enqueue r :: rest)
    (hcancel : d.cancelled = []) :
    d.step .command = { d with
      inbox := rest
      outbox := d.outbox.push r
      history := .queued r :: d.history } := by
  simp [step, hl, Link.isBusy, takeCommand, hi, enqueue, isCancelled, hcancel, flush, note]

theorem command_disconnected {session : Session} {r : Request} {rest : List Command}
    (hl : d.link = .disconnected) (hi : d.inbox = .enqueue r :: rest)
    (hcancel : d.cancelled = []) (hs : d.session.check d.jar.header = (session, .unchanged)) :
    d.step .command = { d with
      inbox := rest
      outbox := d.outbox.push r
      session := session
      link := .connecting d.jar.header?
      history := .dialled d.jar.header? :: .queued r :: d.history } := by
  simp [step, hl, Link.isBusy, takeCommand, hi, enqueue, isCancelled, hcancel, flush, note,
    connect_eq, hs, Outbox.push]

/-- Neither client's loop is emptying its queue, and they take the same command. -/
theorem Mirrors.takes_eq (h : Mirrors c d) (hb : c.link.isBusy = false) :
    d.takes .command = c.takes .command := by
  simp [takes, hb, h.phase.not_busy, h.inbox_eq]

/-- An event that gives no number runs out of none. -/
theorem Conserved.step_of_loop (h : Conserved issued given c) (he : e.isApplication = false) :
    Conserved (issued ++ (c.handsOut e).toList) given (c.step e) := by
  have hlt := c.lastSeq.toNat_lt
  rw [h.lastSeq_eq] at hlt
  have hstep := h.step e (by simpa [allocates_of_loop he] using hlt)
  simpa [allocates_of_loop he] using hstep

/-- The connection is there: the request is handed over at once. -/
theorem Mirrors.queued_up (h : Mirrors c d) (hd : Conserved issued given d) {r : Request}
    {rest : List Command} (hb : c.link.isBusy = false) (hi : c.inbox = .enqueue r :: rest)
    (hl : d.link = .opened 0) (hk : d.connections = 1) {l : Link} (hl' : l ≠ .disconnected) :
    ∃ gs, Echo c d .command gs ∧ Mirrors { c with
      inbox := rest
      outbox := c.outbox.push r
      link := l
      history := .queued r :: c.history } (d.run gs) := by
  have htakes : c.takes .command = some (.enqueue r) := by simp [takes, hb, hi]
  have hstep := command_opened hl (h.inbox_eq.trans hi) h.uncancelled
  have hconserved := hd.step_of_loop (e := .command) rfl
  have hshares : Shares { c with
      inbox := rest
      outbox := c.outbox.push r
      link := l
      history := .queued r :: c.history } (d.step .command) := by
    rw [hstep]
    refine ⟨h.front_rest rest, h.running, h.uncancelled, h.trails, fun q => ?_⟩
    rw [Outbox.mem_carried_push, Outbox.mem_carried_push, h.carried q]
  obtain ⟨hserved, hopened, hconnections⟩ := hshares.serve hconserved (by rw [hstep])
  refine ⟨.command :: serve (d.step .command).outbox.queue.length, ?_, ⟨hserved, ?_⟩⟩
  · exact echo_of_takes (fun _ => mem_serve) (.inl rfl) (h.takes_eq hb) (by simp [htakes])
  · rw [run_cons, hopened, hconnections, hstep, hk]
    exact .up l hl'

/-- The connection is not there yet: the request waits in both queues. -/
theorem Mirrors.queued_dialling (h : Mirrors c d) {r : Request} {rest : List Command}
    (hb : c.link.isBusy = false) (hi : c.inbox = .enqueue r :: rest) {cookies : Option String}
    (hl : d.link = .connecting cookies) :
    ∃ gs, Echo c d .command gs ∧ Mirrors { c with
      inbox := rest
      outbox := c.outbox.push r
      history := .queued r :: c.history } (d.run gs) := by
  have htakes : c.takes .command = some (.enqueue r) := by simp [takes, hb, hi]
  have hstep := command_connecting hl (h.inbox_eq.trans hi) h.uncancelled
  refine ⟨[.command], echo_of_takes (by simp) (.inl rfl) (h.takes_eq hb) (by simp [htakes]), ?_⟩
  rw [run_cons, run_nil, hstep]
  refine ⟨⟨h.front_rest rest, h.running, h.uncancelled, h.trails, fun q => ?_⟩, h.phase⟩
  rw [Outbox.mem_carried_push, Outbox.mem_carried_push, h.carried q]

/-- There is no connection: both clients dial. -/
theorem Mirrors.queued_idle (h : Mirrors c d) {r : Request} {rest : List Command}
    (hi : c.inbox = .enqueue r :: rest) (hl : c.link = .disconnected) {session : Session}
    (hs : c.session.check c.jar.header = (session, .unchanged))
    (hr : session.rotated = false) :
    ∃ gs, Echo c d .command gs ∧ Mirrors { c with
      inbox := rest
      outbox := c.outbox.push r
      session := session
      link := .connecting c.jar.header?
      history := .dialled c.jar.header? :: .queued r :: c.history } (d.run gs) := by
  have hb : c.link.isBusy = false := by rw [hl]; rfl
  have htakes : c.takes .command = some (.enqueue r) := by simp [takes, hb, hi]
  obtain ⟨hld, hk⟩ := h.phase.disconnected hl
  have hpasses : (c.session.check c.jar.header).1.rotated = false := by rw [hs]; exact hr
  obtain ⟨hchecked, hpassed⟩ := h.trails.check hpasses
  have hsession : session = c.session.snapshot c.jar.header := by
    rw [hs] at hpassed
    exact (Prod.ext_iff.1 hpassed).1
  have hstep := command_disconnected hld (h.inbox_eq.trans hi) h.uncancelled
    (by rw [h.jar_eq]; exact hchecked)
  refine ⟨[.command], echo_of_takes (by simp) (.inl rfl) (h.takes_eq hb) (by simp [htakes]), ?_⟩
  rw [run_cons, run_nil, hstep, hsession]
  refine ⟨⟨h.front_rest rest, h.running, h.uncancelled, h.trails.snapshot _, fun q => ?_⟩, ?_⟩
  · rw [Outbox.mem_carried_push, Outbox.mem_carried_push, h.carried q]
  · rw [hk]
    exact .dialling _ (.inl ⟨_, rfl⟩) _

/-- The first connection of the one client is the only one of the other. -/
theorem Mirrors.connected (h : Mirrors c d) (hd : Conserved issued given d)
    {cookies : Option String} (hl : c.link = .connecting cookies) :
    ∃ gs, Echo c d .connected gs ∧ Mirrors { c with
      backoff := c.backoff.reset
      link := .draining c.connections
      connections := c.connections + 1
      history := .opened c.connections :: c.history } (d.run gs) := by
  have hup : Link.draining c.connections ≠ .disconnected := by simp
  rcases h.phase.dialling_or_up (by simp [hl]) with ⟨cookies', hld, hk⟩ | ⟨hld, hk⟩
  case inr =>
    refine h.wait rfl rfl rfl h.trails (fun _ => Iff.rfl) ?_
    rw [hld, hk]
    exact .up _ hup
  case inl =>
    have hstep : d.step .connected = { d with
        backoff := d.backoff.reset
        link := .draining 0
        connections := 1
        history := .opened 0 :: d.history } := by
      simp [step, hld, Client.connected, flush, note, hk]
    have hshares : Shares { c with
        backoff := c.backoff.reset
        link := .draining c.connections
        connections := c.connections + 1
        history := .opened c.connections :: c.history } (d.step .connected) := by
      rw [hstep]
      exact ⟨h.front_eq, h.running, h.uncancelled, h.trails, h.carried⟩
    obtain ⟨hserved, hopened, hconnections⟩ :=
      hshares.serve (hd.step_of_loop (e := .connected) rfl) (by rw [hstep])
    refine ⟨.connected :: serve (d.step .connected).outbox.queue.length,
      echo_of_takes (fun _ => mem_serve) (.inr rfl) rfl (by simp [takes]), hserved, ?_⟩
    rw [run_cons, hopened, hconnections, hstep]
    exact .up _ hup

/-- **Whatever the loop of the first client does but take in a frame, the second one follows.** -/
theorem Mirrors.loop {issued' : List ReqSeq} {given' : Nat} (h : Mirrors c d)
    (ht : Transition c e c') (he : e.isApplication = false) (hne : ∀ b, e ≠ .received b)
    (hconserved : Conserved issued' given' c)
    (hd : Conserved issued given d) (hc : c'.Calm) (hclear : c.takes e ≠ some .clear) :
    ∃ gs, Echo c d e gs ∧ Mirrors c' (d.run gs) := by
  have hcalm := ht.calm hc
  have hrotated := hc.unrotated
  have hnone : c.takes e = none → c.receives e = none := fun htakes => by simp [receives, htakes]
  have hnobody : ∀ n, c.isCancelled n = false := by simp [isCancelled, hcalm.uncancelled]
  cases ht with
  | quiet e jar session handlers held new hnew hr hm hk =>
    obtain ⟨rfl, rfl, ⟨b, rfl⟩ | ⟨rfl, rfl⟩⟩ := hk he
    · exact absurd rfl (hne b)
    · exact h.wait he (hnone hm.takes) (by simp [front, desk, outcomes, outcome?_quiet hnew])
        h.trails (fun _ => Iff.rfl) h.phase
  | numbered | reading | posted | forsaken | cancelled | readPosted | readFailed => cases he
  | asked e command hc hs hm ha => simp [he] at ha
  | dropped r rest hb hi hcancel => simp [hnobody] at hcancel
  | skipped connection r rest hl hq hcancel => simp [hnobody] at hcancel
  | queuedOpen r rest connection hl hi hcancel =>
    have hphase := h.phase.connected (by rw [hl]; rfl)
    exact h.queued_up hd (by rw [hl]; rfl) hi hphase.1 hphase.2 (by simp)
  | queuedLater r rest hl hi hcancel =>
    have hb : c.link.isBusy = false := by rcases hl with ⟨_, hl⟩ | ⟨_, hl⟩ <;> rw [hl] <;> rfl
    have hup : c.link ≠ .disconnected := by rcases hl with ⟨_, hl⟩ | ⟨_, hl⟩ <;> simp [hl]
    rcases h.phase.dialling_or_up hup with ⟨cookies, hld, -⟩ | ⟨hld, hk⟩
    · exact h.queued_dialling hb hi hld
    · exact h.queued_up hd hb hi hld hk hup
  | queuedDialled r rest session hl hi hcancel hcheck => exact h.queued_idle hi hl hcheck hrotated
  | queuedRotated r rest session hl hi hcancel hcheck | rotated secs session hl hcheck =>
    simp [Session.rotated_of_check hcheck] at hrotated
  | cleared rest hb hi => simp [takes, hb, hi] at hclear
  | queried rest stats hb hi =>
    have hstep := command_query h.phase.not_busy (h.inbox_eq.trans hi)
    refine ⟨[.command], echo_of_takes (by simp) (.inl rfl) (h.takes_eq hb) hclear, ?_⟩
    rw [run_cons, run_nil, hstep]
    exact ⟨⟨h.front_rest rest, h.running, h.uncancelled, h.trails, h.carried⟩, h.phase⟩
  | halted e rest hb hhalts =>
    have := hc.running
    simp at this
  | connected cookies hl => exact h.connected hd hl
  | ended e clean hends =>
    have hup : c.link ≠ .disconnected := by cases hends <;> simp [*]
    refine h.wait he (by cases hends <;> rfl) rfl h.trails (fun r => ?_)
      (h.phase.pausing hup (.inr ⟨_, rfl⟩))
    split
    · exact hconserved.valid.mem_carried_requeue
    · exact Iff.rfl
  | answered b => exact absurd rfl (hne b)
  | redialled secs session hl hcheck =>
    have hpasses : (c.session.check c.jar.header).1.rotated = false := by
      rw [hcheck]
      exact hrotated
    have hahead := h.trails.ahead hpasses
    rw [hcheck] at hahead
    exact h.wait he rfl rfl hahead (fun _ => Iff.rfl)
      (h.phase.pausing (by simp [hl]) (.inl ⟨_, rfl⟩))
  | drained connection hl hq | taken connection r hl =>
    exact h.wait he rfl rfl h.trails (fun _ => Iff.rfl)
      (h.phase.stays (by rw [hl]; rfl) (by simp))
  | handed connection r rest hl hq hcancel =>
    have hmoved := hconserved.valid.perm_carried_markSent hconserved.carried_nodup hq
    exact h.wait he rfl rfl h.trails
      (fun _ => hmoved.mem_iff) (h.phase.stays (by rw [hl]; rfl) (by simp))

/-! ## Frames -/

/-- A frame that both clients take in. -/
theorem echo_received {b : Octets} {connection : Nat} (hl : c.link = .opened connection)
    (h : (∀ n, ¬ Addresses b n) ∨ ∃ r, r ∈ c.inFlight ∧ r ∈ d.inFlight ∧ Addresses b r.seq ∧
      r.seq ∈ (d.step (.received b)).numbersAt .settled) :
    Echo c d (.received b) [.received b] where
  application := rfl
  lossless g hg := by
    rw [List.mem_singleton.1 hg]
    rfl
  allocates_eq := rfl
  receives_eq := rfl
  uncleared := by simp [along, takes]
  hears := .inr ⟨b, rfl, rfl, ⟨connection, hl⟩, h⟩

theorem Shares.dispatch (h : Shares c d) (method : String) (content : Value)
    (hc : (c.dispatch method content).session.rotated = false) :
    Shares (c.dispatch method content) (d.dispatch method content) := by
  unfold Client.dispatch at hc ⊢
  rw [h.alike.handlers_eq]
  cases hm : c.handlers.lookup method with
  | none => exact h
  | some handler =>
    rw [hm] at hc
    cases handler with
    | application id =>
      exact ⟨h.front_eq, h.running, h.uncancelled, h.trails, h.carried⟩
    | cookies =>
      simp only [applyCookieMessage] at hc ⊢
      cases hlines : cookieLines? content with
      | none => exact h
      | some lines =>
        simp only [hlines] at hc ⊢
        have hpassed := hc
        rw [session_updateCookies] at hpassed
        -- The second client may change its cookies because the first one may.
        have htrails := h.trails.update hpassed
        have hd : (d.updateCookies (·.applyLines lines)).1.session.rotated = false := by
          rw [session_updateCookies, h.jar_eq]
          exact htrails.unrotated
        rw [updateCookies_of_unrotated hc, updateCookies_of_unrotated hd, h.jar_eq]
        have hfront := congrArg
          (fun f : Front => { f with jar := c.jar.applyLines lines : Front }) h.front_eq
        exact ⟨hfront, h.running, h.uncancelled, htrails, h.carried⟩

/-- What awaits an answer at the one client awaits it at the other. -/
theorem Shares.take?_eq (h : Shares c d) (hvc : c.outbox.Valid) (hvd : d.outbox.Valid)
    (hqc : c.outbox.queue = []) (hqd : d.outbox.queue = []) {n : ReqSeq} {r : Request}
    {outbox : Outbox} (ht : c.outbox.take? n = some (r, outbox)) :
    r.seq = n ∧ r ∈ c.inFlight ∧ r ∈ d.inFlight ∧
      ∃ outbox', d.outbox.take? n = some (r, outbox') ∧
        ∀ q, q ∈ outbox'.carried ↔ q ∈ outbox.carried := by
  have hcarried := h.carried
  simp only [Outbox.carried, hqc, hqd, List.nil_append] at hcarried
  obtain ⟨before, stamp, after, htable, -, hseq⟩ := hvc.take?_eq_some ht
  have hrc : r ∈ c.inFlight := by simp [inFlight, htable]
  have hrd : r ∈ d.inFlight := (hcarried r).2 hrc
  refine ⟨hseq, hrc, hrd, ?_⟩
  cases htd : d.outbox.take? n with
  | none =>
    refine absurd ?_ (Outbox.take?_eq_none_iff.1 htd)
    rw [← hvd.map_seq, ← hseq]
    obtain ⟨x, hx, rfl⟩ := List.mem_map.1 hrd
    exact List.mem_map.2 ⟨x, hx, rfl⟩
  | some taken =>
    obtain ⟨r', outbox'⟩ := taken
    obtain ⟨before', stamp', after', htable', -, hseq'⟩ := hvd.take?_eq_some htd
    have hrd' : r' ∈ c.inFlight := (hcarried r').1 (by simp [htable'])
    -- The first client has only one request of that number.
    have hnodup : (c.inFlight.map (·.seq)).Nodup := by
      rw [inFlight, List.map_map]
      exact hvc.map_seq ▸ hvc.nodup
    obtain rfl := List.inj_on_of_nodup_map hnodup hrd' hrc (hseq'.trans hseq.symm)
    refine ⟨outbox', rfl, fun q => ?_⟩
    rw [hvd.mem_carried_take? hqd htd, hvc.mem_carried_take? hqc ht, h.carried q]

/-- A frame that settles a request. -/
theorem received_of_taken {b : Octets} {connection : Nat} {n : ReqSeq}
    {outcome : ResponseType → Outcome} {r : Request} {outbox : Outbox}
    (hl : c.link = .opened connection) (hj : Inbound.judge c.config.version b = .settle n outcome)
    (ht : c.outbox.take? n = some (r, outbox)) :
    c.step (.received b) = { c with
      outbox := outbox
      history := .settled r.seq (outcome r.response) :: .received b :: c.history } := by
  simp only [step, hl, receive, note, hj, answer, ht, settle]

/-- A frame that is a message. -/
theorem received_of_deliver {b : Octets} {connection : Nat} {method : String} {content : Value}
    (hl : c.link = .opened connection)
    (hj : Inbound.judge c.config.version b = .deliver method content) :
    c.step (.received b) = (c.note (.received b)).dispatch method content := by
  simp only [step, hl, receive, note, hj]

theorem link_dispatch (c : Client) (method : String) (content : Value) :
    (c.dispatch method content).link = c.link ∧
      (c.dispatch method content).connections = c.connections := by
  obtain ⟨session, jar, new, heq, -, -⟩ := dispatch_eq c method content
  rw [heq]
  exact ⟨rfl, rfl⟩

/-- A frame that settles a request at the first client settles it at the second one. -/
theorem Mirrors.answered (h : Mirrors c d) (hsc : c.Steady) (hsd : d.Steady) {b : Octets}
    {connection : Nat} {n : ReqSeq} {outcome : ResponseType → Outcome} {r : Request}
    {outbox : Outbox} (hl : c.link = .opened connection)
    (hj : Inbound.judge c.config.version b = .settle n outcome)
    (ht : c.outbox.take? n = some (r, outbox)) :
    ∃ gs, Echo c d (.received b) gs ∧ Mirrors (c.step (.received b)) (d.run gs) := by
  have hld := (h.phase.connected (by rw [hl]; rfl)).1
  obtain ⟨rfl, hrc, hrd, outbox', htd, hcarried⟩ := h.take?_eq hsc.valid hsd.valid
    (hsc.opened connection hl) (hsd.opened 0 hld) ht
  have hjd : Inbound.judge d.config.version b = .settle r.seq outcome :=
    h.alike.config_eq.symm ▸ hj
  have hstep := received_of_taken hld hjd htd
  refine ⟨[.received b], echo_received hl (.inr ⟨r, hrc, hrd, (judge_settle hj).1, ?_⟩), ?_⟩
  · simp [hstep, numbersAt]
  · rw [run_cons, run_nil, hstep, received_of_taken hl hj ht]
    have hfront := congrArg (fun f : Front =>
      { f with outcomes := (r.seq, outcome r.response) :: f.outcomes : Front }) h.front_eq
    exact ⟨⟨hfront, h.running, h.uncancelled, h.trails, hcarried⟩, h.phase⟩

/-- A message reaches both. -/
theorem Mirrors.message (h : Mirrors c d) {b : Octets} {connection : Nat} {method : String}
    {content : Value} (hl : c.link = .opened connection)
    (hj : Inbound.judge c.config.version b = .deliver method content)
    (hc : (c.step (.received b)).Calm) :
    ∃ gs, Echo c d (.received b) gs ∧ Mirrors (c.step (.received b)) (d.run gs) := by
  have hld := (h.phase.connected (by rw [hl]; rfl)).1
  have hjd : Inbound.judge d.config.version b = .deliver method content :=
    h.alike.config_eq.symm ▸ hj
  have hno : ∀ n, ¬ Addresses b n := by
    intro n ha
    obtain ⟨outcome, hsettle⟩ : ∃ outcome, Inbound.judge c.config.version b = .settle n outcome :=
      judge_eq_settle_iff.2 ha
    rw [hj] at hsettle
    cases hsettle
  have hnoted : Shares (c.note (.received b)) (d.note (.received b)) :=
    ⟨h.front_eq, h.running, h.uncancelled, h.trails, h.carried⟩
  refine ⟨[.received b], echo_received hl (.inl hno), ?_⟩
  rw [received_of_deliver hl hj] at hc ⊢
  rw [run_cons, run_nil, received_of_deliver hld hjd]
  obtain ⟨hlc, -⟩ := link_dispatch (c.note (.received b)) method content
  obtain ⟨hld', hkd⟩ := link_dispatch (d.note (.received b)) method content
  refine ⟨hnoted.dispatch method content hc.unrotated, ?_⟩
  rw [hlc, hld', hkd]
  exact h.phase

/-- **A frame that settles a request settles it at both clients**, and a message reaches both. -/
theorem Mirrors.received (h : Mirrors c d) (b : Octets) (hsc : c.Steady) (hsd : d.Steady)
    (hc : (c.step (.received b)).Calm) :
    ∃ gs, Echo c d (.received b) gs ∧ Mirrors (c.step (.received b)) (d.run gs) := by
  -- A frame that does neither is all that is noted.
  have hwait : c.step (.received b) = c ∨ c.step (.received b) = c.note (.received b) →
      ∃ gs, Echo c d (.received b) gs ∧ Mirrors (c.step (.received b)) (d.run gs) := by
    rintro (hstep | hstep) <;> rw [hstep] <;>
      exact h.wait rfl rfl rfl h.trails (fun _ => Iff.rfl) h.phase
  cases hl : c.link with
  | opened connection =>
    cases hj : Inbound.judge c.config.version b with
    | nothing => exact hwait (.inr (by simp only [step, hl, receive, note, hj]))
    | settle n outcome =>
      cases ht : c.outbox.take? n with
      | none => exact hwait (.inr (by simp only [step, hl, receive, note, hj, answer, ht]))
      | some taken => exact h.answered hsc hsd hl hj ht
    | deliver method content => exact h.message hl hj hc
  | _ => exact hwait (.inl (by simp only [step, hl]))

end Courier.Client

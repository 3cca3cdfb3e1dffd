import Courier.Client.Observation

/-!
# What one event can do

`Client.step` in closed form. Each case of `Transition` is one thing that an event can do, with
the state after it written out; whatever touches no request and no connection is `quiet`.
Statements about runs are proved by cases on it, and never open `step` again.

* `step_transition`: every event is one of these cases.
* `failAll_eq`, `stop_eq`, `disconnect_eq`: closed forms of the operations on the loop's side.
-/

namespace Courier

namespace Occurrence

/-- Whether an occurrence concerns no request and no connection. -/
def isQuiet : Occurrence → Bool
  | .received _ | .delivered _ _ _ | .cookiesChanged => true
  | _ => false

end Occurrence

/-- The kinds of events: an application does few things that look at the cookies or the handlers. -/
theorem Event.kinds (e : Event) :
    e.isPlain = true ∨ (∃ uri body response, e = .send uri body response) ∨
      (∃ method id, e = .register method id) ∨ (∃ change, e = .updateCookies change) ∨
      (∃ change, e = .foreign change) ∨ e.isApplication = false := by
  cases e with
  | send uri body response => exact .inr (.inl ⟨uri, body, response, rfl⟩)
  | register method id => exact .inr (.inr (.inl ⟨method, id, rfl⟩))
  | updateCookies change => exact .inr (.inr (.inr (.inl ⟨change, rfl⟩)))
  | foreign change => exact .inr (.inr (.inr (.inr (.inl ⟨change, rfl⟩))))
  | finish | cancel | clear | query | shutdown | release | uploadRead => exact .inl rfl
  | _ => exact .inr (.inr (.inr (.inr (.inr rfl))))

namespace Client

variable {c c' : Client}

/-- The outcomes of requests that fail together, the latest first. -/
def failures (rs : List Request) (e : Error) : List Occurrence :=
  (rs.map fun r => .settled r.seq (.error e)).reverse

/-- What the end of the loop does to a connection. -/
def closing : Link → List Occurrence
  | .opened connection => [.shut connection]
  | _ => []

/-! ## What occurrences do to requests -/

@[simp] theorem settled?_failures (rs : List Request) (error : Error) :
    (failures rs error).filterMap Occurrence.settled? = (rs.map (·.seq)).reverse := by
  have hsome : Occurrence.settled? ∘ (fun r : Request => .settled r.seq (.error error))
      = some ∘ (·.seq) := rfl
  rw [failures, List.filterMap_reverse, List.filterMap_map, hsome, List.filterMap_eq_map]

@[simp] theorem discarded?_failures (rs : List Request) (error : Error) :
    (failures rs error).filterMap Occurrence.discarded? = [] := by
  simp [failures, Occurrence.discarded?]

@[simp] theorem settled?_closing (l : Link) : (closing l).filterMap Occurrence.settled? = [] := by
  cases l <;> rfl

@[simp] theorem discarded?_closing (l : Link) :
    (closing l).filterMap Occurrence.discarded? = [] := by
  cases l <;> rfl

/-- A quiet occurrence is none of those that an observation looks for. -/
theorem filterMap_quiet {α : Type} {f : Occurrence → Option α}
    (hf : ∀ o, o.isQuiet = true → f o = none) {new : List Occurrence}
    (h : ∀ o ∈ new, o.isQuiet) : new.filterMap f = [] :=
  List.filterMap_eq_nil_iff.2 fun o ho => hf o (h o ho)

theorem settled?_quiet {new : List Occurrence} (h : ∀ o ∈ new, o.isQuiet) :
    new.filterMap Occurrence.settled? = [] :=
  filterMap_quiet (fun o _ => by cases o <;> simp_all [Occurrence.isQuiet]) h

theorem discarded?_quiet {new : List Occurrence} (h : ∀ o ∈ new, o.isQuiet) :
    new.filterMap Occurrence.discarded? = [] :=
  filterMap_quiet (fun o _ => by cases o <;> simp_all [Occurrence.isQuiet]) h

theorem handed?_quiet {new : List Occurrence} (h : ∀ o ∈ new, o.isQuiet) :
    new.filterMap Occurrence.handed? = [] :=
  filterMap_quiet (fun o _ => by cases o <;> simp_all [Occurrence.isQuiet]) h

@[simp] theorem handed?_failures (rs : List Request) (error : Error) :
    (failures rs error).filterMap Occurrence.handed? = [] := by
  simp [failures, Occurrence.handed?]

@[simp] theorem handed?_closing (l : Link) : (closing l).filterMap Occurrence.handed? = [] := by
  cases l <;> rfl

/-! ## Closed forms -/

theorem settleAll_eq (c : Client) (rs : List Request) (e : Error) :
    settleAll c rs e = { c with history := failures rs e ++ c.history } := by
  unfold settleAll failures
  induction rs generalizing c with
  | nil => rfl
  | cons r rs ih =>
    rw [List.foldl_cons, ih]
    simp [settle, note]

theorem failAll_eq (c : Client) (e : Error) :
    c.failAll e = { c with
      outbox := c.outbox.drain.2
      history := failures c.outbox.drain.1 e ++ c.history } := by
  rw [failAll, settleAll_eq]

theorem stop_eq (c : Client) :
    c.stop = { c with
      inbox := []
      stopped := true
      outbox := c.outbox.drain.2
      link := .disconnected
      history := failures c.outbox.drain.1 .connectionClosed ++ (closing c.link
        ++ (failures (requestsOf c.inbox) .connectionClosed ++ c.history)) } := by
  simp only [stop, settleAll_eq, failAll_eq]
  cases c.link <;> rfl

theorem disconnect_eq (clean : Bool) (h : ∀ secs, c.link ≠ .waiting secs) :
    c.disconnect clean = { c with
      outbox := if c.backoff.isIdle ∧ !clean then c.outbox.requeue.2 else c.outbox
      backoff := c.backoff.escalate
      link := .waiting c.backoff.escalate.secs
      history := .ended clean c.backoff.escalate.secs :: c.history } := by
  unfold disconnect
  split
  · rename_i secs heq
    exact absurd heq (h secs)
  · rfl

/-- A handshake starts unless the session was rotated; then every request fails instead. -/
theorem connect_eq (c : Client) :
    c.connect = match c.session.check c.jar.header with
      | (s, .unchanged) => { c with
          session := s
          link := .connecting c.jar.header?
          history := .dialled c.jar.header? :: c.history }
      | (s, .rotated) => { c with
          session := s
          link := .disconnected
          outbox := c.outbox.drain.2
          history := failures c.outbox.drain.1 (.sessionRotated s.cookieName) ++ c.history } := by
  simp only [connect, checkSession]
  rcases c.session.check c.jar.header with ⟨s, _ | _⟩
  · rfl
  · exact failAll_eq _ _

theorem updateCookies_eq (c : Client) (change : Jar → Jar) :
    ∃ session jar new, (c.updateCookies change).1 =
      { c with session := session, jar := jar, history := new ++ c.history } ∧
      (∀ o ∈ new, o.isQuiet) ∧ (c.session.rotated = true → session.rotated = true) := by
  unfold updateCookies
  rcases hu : c.session.update Jar.header c.jar change with ⟨session, jar, _ | _⟩
  · refine ⟨session, jar, [], rfl, by simp, fun h => ?_⟩
    rw [Session.update_of_rotated h, Prod.mk.injEq] at hu
    exact hu.1 ▸ h
  · refine ⟨session, jar, [.cookiesChanged], rfl, by simp [Occurrence.isQuiet], fun h => ?_⟩
    rw [Session.update_of_rotated h] at hu
    cases hu

theorem dispatch_eq (c : Client) (method : String) (content : Value) :
    ∃ session jar new, c.dispatch method content =
      { c with session := session, jar := jar, history := new ++ c.history } ∧
      (∀ o ∈ new, o.isQuiet) ∧ (c.session.rotated = true → session.rotated = true) := by
  unfold dispatch
  split
  · exact ⟨c.session, c.jar, [], rfl, by simp, id⟩
  · unfold applyCookieMessage
    split
    · exact updateCookies_eq c _
    · exact ⟨c.session, c.jar, [], rfl, by simp, id⟩
  · rename_i handler _
    exact ⟨c.session, c.jar, [.delivered handler method content], rfl,
      by simp [Occurrence.isQuiet], id⟩

/-- A request gets the next number. It is complete, unless there is a file to be read first. -/
theorem accept_cases (c : Client) (uri : String) (content : Value) (upload : Option Upload)
    (response : ResponseType) :
    (∃ (attachment : Option Attachment) (r : Request),
      upload.toList.map Upload.attachment? = attachment.toList.map some ∧
      r = ⟨ReqSeq.next c.lastSeq,
        requestFrame c.config.version (ReqSeq.next c.lastSeq) uri content attachment, response⟩ ∧
      c.accept uri content upload response =
        ({ c with lastSeq := r.seq, calls := c.calls ++ [r] }, .complete r)) ∨
    ∃ (u : Upload) (p : PendingUpload), upload = some u ∧ u.attachment? = none ∧
      p = ⟨ReqSeq.next c.lastSeq, uri, content, u, response⟩ ∧
      c.accept uri content upload response =
        ({ c with lastSeq := p.seq, uploads := c.uploads ++ [p] }, .reading p.seq) := by
  unfold accept
  cases upload with
  | none => exact .inl ⟨none, _, rfl, rfl, rfl⟩
  | some u =>
    cases h : u.attachment? with
    | none => exact .inr ⟨u, _, rfl, h, rfl, by simp only [h]⟩
    | some a => exact .inl ⟨some a, _, by simp [h], rfl, by simp only [h]⟩

theorem accept_eq (c : Client) (uri : String) (content : Value) (upload : Option Upload)
    (response : ResponseType) :
    (∃ r : Request, r.seq = ReqSeq.next c.lastSeq ∧ c.accept uri content upload response =
      ({ c with lastSeq := r.seq, calls := c.calls ++ [r] }, .complete r)) ∨
    ∃ p : PendingUpload, p.seq = ReqSeq.next c.lastSeq ∧ c.accept uri content upload response =
      ({ c with lastSeq := p.seq, uploads := c.uploads ++ [p] }, .reading p.seq) := by
  rcases accept_cases c uri content upload response with
    ⟨_, r, -, rfl, h⟩ | ⟨_, p, -, -, rfl, h⟩
  · exact .inl ⟨_, rfl, h⟩
  · exact .inr ⟨_, rfl, h⟩

/-- A call that nothing is wrong with gets the next number for its request. -/
theorem begin_of_prepare {uri address : String} {body : Body} {content : Value}
    {upload : Option Upload} {session : Session}
    (hs : c.session.check c.jar.header = (session, .unchanged)) (hrun : c.stopped = false)
    (hp : prepare uri body = .ok (address, content, upload)) (response : ResponseType) :
    c.begin uri body response =
      ((accept { c with session := session } address content upload response).1,
        .ok (accept { c with session := session } address content upload response).2) := by
  simp [begin, checkSession, hs, hrun, hp]

/-- A call that comes to nothing at most notices a rotation; with any other nothing is wrong. -/
theorem begin_cases (c : Client) (uri : String) (body : Body) (response : ResponseType) :
    (∃ session result, c.begin uri body response = ({ c with session := session }, result) ∧
      (∀ call, result = .ok call → call = .skipped) ∧
      (c.session.rotated = true → session.rotated = true)) ∨
    ∃ session address content upload,
      c.session.check c.jar.header = (session, .unchanged) ∧ c.stopped = false ∧
      prepare uri body = .ok (address, content, upload) ∧
      c.begin uri body response =
        ((accept { c with session := session } address content upload response).1,
          .ok (accept { c with session := session } address content upload response).2) := by
  cases hcheck : c.session.check c.jar.header with
  | mk session status =>
  have hrotated : c.session.rotated = true → session.rotated = true := by
    intro h
    rw [Session.check_of_rotated h] at hcheck
    cases hcheck
    exact h
  cases status with
  | rotated =>
    exact .inl ⟨session, .ok .skipped, by simp [begin, checkSession, hcheck],
      fun _ h => (Except.ok.inj h).symm, hrotated⟩
  | unchanged =>
    by_cases hrun : c.stopped = true
    · exact .inl ⟨session, .error .connectionClosed, by simp [begin, checkSession, hcheck, hrun],
        nofun, hrotated⟩
    rw [Bool.not_eq_true] at hrun
    cases hp : prepare uri body with
    | error e =>
      exact .inl ⟨session, .error e, by simp [begin, checkSession, hcheck, hrun, hp], nofun,
        hrotated⟩
    | ok request =>
      obtain ⟨address, content, upload⟩ := request
      exact .inr ⟨session, address, content, upload, rfl, hrun, rfl,
        begin_of_prepare hcheck hrun hp response⟩

/-- A call at most numbers a request, and looks at the session before that. -/
theorem begin_eq (c : Client) (uri : String) (body : Body) (response : ResponseType) :
    ∃ session lastSeq calls uploads, (c.begin uri body response).1 =
      { c with session := session, lastSeq := lastSeq, calls := calls, uploads := uploads } := by
  rcases begin_cases c uri body response with
    ⟨session, result, h, -⟩ | ⟨session, address, content, upload, -, -, -, h⟩
  · exact ⟨session, c.lastSeq, c.calls, c.uploads, by rw [h]⟩
  · rw [h]
    rcases accept_eq { c with session := session } address content upload response with
      ⟨r, -, h⟩ | ⟨p, -, h⟩
    · exact ⟨session, r.seq, c.calls ++ [r], c.uploads, by rw [h]⟩
    · exact ⟨session, p.seq, c.calls, c.uploads ++ [p], by rw [h]⟩

theorem post_eq (c : Client) (command : Command) :
    c.post command = { c with
      inbox := if c.stopped then c.inbox else c.inbox ++ [command] } := by
  unfold post
  split <;> rfl

theorem finish_eq (c : Client) (r : Request) :
    (c.finish r).1 = { c with
      calls := c.calls.eraseP fun q => q.seq = r.seq
      inbox := if c.stopped then c.inbox else c.inbox ++ [.enqueue r] } := by
  simp only [finish, post_eq]
  split <;> simp_all

theorem uploadRead_eq (c : Client) (seq : ReqSeq) (result : Except FileFault Octets) :
    ∃ uploads inbox history, c.uploadRead seq result =
      { c with uploads := uploads, inbox := inbox, history := history } := by
  unfold uploadRead
  cases c.uploads.find? fun p => p.seq = seq with
  | none => exact ⟨c.uploads, c.inbox, c.history, rfl⟩
  | some p =>
    cases result with
    | error fault => exact ⟨_, c.inbox, _, rfl⟩
    | ok octets =>
      simp only [post_eq]
      split
      · exact ⟨_, c.inbox, _, rfl⟩
      · exact ⟨_, _, c.history, rfl⟩

/-- An event that concerns requests or the handle alone leaves the loop, the cookies and the
handlers as they are. -/
theorem step_plain (c : Client) {e : Event} (he : e.isPlain = true) :
    ∃ held cancelled calls uploads inbox history, c.step e = { c with
      held := held
      cancelled := cancelled
      calls := calls
      uploads := uploads
      inbox := inbox
      history := history } := by
  cases e with
  | finish seq =>
    simp only [step, finish_eq]
    cases c.calls.find? fun r => r.seq = seq with
    | none => exact ⟨c.held, c.cancelled, c.calls, c.uploads, c.inbox, c.history, rfl⟩
    | some r => exact ⟨c.held, c.cancelled, _, c.uploads, _, c.history, rfl⟩
  | cancel seq => exact ⟨c.held, seq :: c.cancelled, c.calls, c.uploads, c.inbox, c.history, rfl⟩
  | release => exact ⟨false, c.cancelled, c.calls, c.uploads, c.inbox, c.history, rfl⟩
  | clear | query | shutdown =>
    simp only [step, post_eq]
    split
    · exact ⟨c.held, c.cancelled, c.calls, c.uploads, _, c.history, rfl⟩
    · exact ⟨c.held, c.cancelled, c.calls, c.uploads, c.inbox, c.history, rfl⟩
  | uploadRead seq result =>
    obtain ⟨uploads, inbox, history, h⟩ := uploadRead_eq c seq result
    exact ⟨c.held, c.cancelled, c.calls, uploads, inbox, history, h⟩
  | _ => cases he

/-! ## The cases -/

/-- An event that serves no call and reaches no request of the queue. -/
structure Passive (c : Client) (e : Event) : Prop where
  allocates : c.allocates e = none
  handsOut : c.handsOut e = none
  reaches : c.reaches e = none

/-- An event at which nothing can be observed. -/
structure Mute (c : Client) (e : Event) : Prop extends c.Passive e where
  takes : c.takes e = none
  breaks : c.breaks e = false

/-- An event that ends an attempt to connect, or an open connection, cleanly or not. -/
inductive Ends (c : Client) : Event → Bool → Prop where
  | refused (cookies : Option String) (hl : c.link = .connecting cookies) : Ends c .refused false
  | closed (connection : Nat) (clean : Bool) (hl : c.link = .opened connection) :
      Ends c (.closed clean) clean
  | broken (connection : Nat) (r : Request) (hl : c.link = .sending connection r) :
      Ends c .broken false

theorem Ends.passive {e : Event} {clean : Bool} (h : c.Ends e clean) : c.Passive e := by
  cases h <;> exact ⟨rfl, rfl, rfl⟩

/-- An event that ends the loop, and the commands that are left to it. -/
inductive Halts (c : Client) : Event → List Command → Prop where
  | shutdown (rest : List Command) (hi : c.inbox = .shutdown :: rest) : Halts c .command rest
  | deserted (hd : c.isDeserted = true) : Halts c .deserted c.inbox

theorem Halts.passive {e : Event} {rest : List Command} (h : c.Halts e rest) : c.Passive e := by
  cases h <;> exact ⟨rfl, rfl, rfl⟩

theorem Halts.requestsOf_eq {e : Event} {rest : List Command} (h : c.Halts e rest) :
    requestsOf rest = requestsOf c.inbox := by
  cases h with
  | shutdown _ hi =>
    rw [hi]
    rfl
  | deserted => rfl

/-- **What one event can do.** -/
inductive Transition (c : Client) : Event → Client → Prop where
  | quiet (e : Event) (jar : Jar) (session : Session) (handlers : List (String × Handler))
      (held : Bool) (new : List Occurrence) (hnew : ∀ o ∈ new, o.isQuiet)
      (hr : c.session.rotated = true → session.rotated = true) (hm : c.Mute e)
      (hk : e.isApplication = false → handlers = c.handlers ∧ held = c.held ∧
        ((∃ b, e = .received b) ∨ jar = c.jar ∧ session = c.session)) :
      Transition c e { c with
        jar := jar
        session := session
        handlers := handlers
        held := held
        history := new ++ c.history }
  | numbered (uri : String) (body : Body) (response : ResponseType) (session : Session)
      (r : Request) (hs : c.session.check c.jar.header = (session, .unchanged))
      (hr : r.seq = ReqSeq.next c.lastSeq)
      (hn : c.allocates (.send uri body response) = some r.seq)
      (hh : c.handsOut (.send uri body response) = none) :
      Transition c (.send uri body response) { c with
        session := session
        lastSeq := r.seq
        calls := c.calls ++ [r] }
  | reading (uri : String) (body : Body) (response : ResponseType) (session : Session)
      (p : PendingUpload) (hs : c.session.check c.jar.header = (session, .unchanged))
      (hp : p.seq = ReqSeq.next c.lastSeq)
      (hn : c.allocates (.send uri body response) = some p.seq)
      (hh : c.handsOut (.send uri body response) = some p.seq) :
      Transition c (.send uri body response) { c with
        session := session
        lastSeq := p.seq
        uploads := c.uploads ++ [p] }
  | posted (r : Request) (hr : c.calls.find? (fun q => q.seq = r.seq) = some r)
      (hs : c.stopped = false) :
      Transition c (.finish r.seq) { c with
        calls := c.calls.eraseP fun q => q.seq = r.seq
        inbox := c.inbox ++ [.enqueue r] }
  | forsaken (r : Request) (hr : c.calls.find? (fun q => q.seq = r.seq) = some r)
      (hs : c.stopped = true) :
      Transition c (.finish r.seq) { c with calls := c.calls.eraseP fun q => q.seq = r.seq }
  | cancelled (seq : ReqSeq) :
      Transition c (.cancel seq) { c with cancelled := seq :: c.cancelled }
  | asked (e : Event) (command : Command) (hc : requestsOf [command] = [])
      (hs : c.stopped = false) (hm : c.Mute e) (ha : e.isApplication = true) :
      Transition c e { c with inbox := c.inbox ++ [command] }
  | readPosted (p : PendingUpload) (octets : Octets) (r : Request) (hr : r.seq = p.seq)
      (hp : c.uploads.find? (fun q => q.seq = p.seq) = some p) (hs : c.stopped = false) :
      Transition c (.uploadRead p.seq (.ok octets)) { c with
        uploads := c.uploads.eraseP fun q => q.seq = p.seq
        inbox := c.inbox ++ [.enqueue r] }
  | readFailed (p : PendingUpload) (result : Except FileFault Octets) (error : Error)
      (he : error.isAbandoned = false)
      (hp : c.uploads.find? (fun q => q.seq = p.seq) = some p) :
      Transition c (.uploadRead p.seq result) { c with
        uploads := c.uploads.eraseP fun q => q.seq = p.seq
        history := .settled p.seq (.error error) :: c.history }
  | dropped (r : Request) (rest : List Command) (hb : c.link.isBusy = false)
      (hi : c.inbox = .enqueue r :: rest) (hc : c.isCancelled r.seq = true) :
      Transition c .command { c with
        inbox := rest
        history := .discarded r.seq :: c.history }
  | queuedOpen (r : Request) (rest : List Command) (connection : Nat)
      (hl : c.link = .opened connection) (hi : c.inbox = .enqueue r :: rest)
      (hc : c.isCancelled r.seq = false) :
      Transition c .command { c with
        inbox := rest
        outbox := c.outbox.push r
        link := .draining connection
        history := .queued r :: c.history }
  | queuedLater (r : Request) (rest : List Command)
      (hl : (∃ cookies, c.link = .connecting cookies) ∨ ∃ secs, c.link = .waiting secs)
      (hi : c.inbox = .enqueue r :: rest) (hc : c.isCancelled r.seq = false) :
      Transition c .command { c with
        inbox := rest
        outbox := c.outbox.push r
        history := .queued r :: c.history }
  | queuedDialled (r : Request) (rest : List Command) (session : Session)
      (hl : c.link = .disconnected) (hi : c.inbox = .enqueue r :: rest)
      (hc : c.isCancelled r.seq = false)
      (hs : c.session.check c.jar.header = (session, .unchanged)) :
      Transition c .command { c with
        inbox := rest
        outbox := c.outbox.push r
        session := session
        link := .connecting c.jar.header?
        history := .dialled c.jar.header? :: .queued r :: c.history }
  | queuedRotated (r : Request) (rest : List Command) (session : Session)
      (hl : c.link = .disconnected) (hi : c.inbox = .enqueue r :: rest)
      (hc : c.isCancelled r.seq = false)
      (hs : c.session.check c.jar.header = (session, .rotated)) :
      Transition c .command { c with
        inbox := rest
        outbox := (c.outbox.push r).drain.2
        session := session
        link := .disconnected
        history := failures (c.outbox.push r).drain.1 (.sessionRotated session.cookieName)
          ++ .queued r :: c.history }
  | cleared (rest : List Command) (hb : c.link.isBusy = false) (hi : c.inbox = .clear :: rest) :
      Transition c .command { c with
        inbox := rest
        outbox := c.outbox.drain.2
        history := failures c.outbox.drain.1 .abandoned ++ c.history }
  | queried (rest : List Command) (stats : Stats) (hb : c.link.isBusy = false)
      (hi : c.inbox = .query :: rest) :
      Transition c .command { c with
        inbox := rest
        history := .reported stats :: c.history }
  | halted (e : Event) (rest : List Command) (hb : c.link.isBusy = false) (he : c.Halts e rest) :
      Transition c e { c with
        inbox := []
        stopped := true
        outbox := c.outbox.drain.2
        link := .disconnected
        history := failures c.outbox.drain.1 .connectionClosed ++ (closing c.link
          ++ (failures (requestsOf rest) .connectionClosed ++ c.history)) }
  | connected (cookies : Option String) (hl : c.link = .connecting cookies) :
      Transition c .connected { c with
        backoff := c.backoff.reset
        link := .draining c.connections
        connections := c.connections + 1
        history := .opened c.connections :: c.history }
  | ended (e : Event) (clean : Bool) (he : c.Ends e clean) :
      Transition c e { c with
        outbox := if c.backoff.isIdle ∧ !clean then c.outbox.requeue.2 else c.outbox
        backoff := c.backoff.escalate
        link := .waiting c.backoff.escalate.secs
        history := .ended clean c.backoff.escalate.secs :: c.history }
  | answered (b : Octets) (connection : Nat) (seq : ReqSeq) (outcome : ResponseType → Outcome)
      (r : Request) (outbox : Outbox) (hl : c.link = .opened connection)
      (hj : Inbound.judge c.config.version b = .settle seq outcome)
      (ht : c.outbox.take? seq = some (r, outbox)) :
      Transition c (.received b) { c with
        outbox := outbox
        history := .settled r.seq (outcome r.response) :: .received b :: c.history }
  | redialled (secs : Nat) (session : Session) (hl : c.link = .waiting secs)
      (hs : c.session.check c.jar.header = (session, .unchanged)) :
      Transition c .retry { c with
        session := session
        link := .connecting c.jar.header?
        history := .dialled c.jar.header? :: c.history }
  | rotated (secs : Nat) (session : Session) (hl : c.link = .waiting secs)
      (hs : c.session.check c.jar.header = (session, .rotated)) :
      Transition c .retry { c with
        session := session
        link := .disconnected
        outbox := c.outbox.drain.2
        history := failures c.outbox.drain.1 (.sessionRotated session.cookieName) ++ c.history }
  | drained (connection : Nat) (hl : c.link = .draining connection) (hq : c.outbox.queue = []) :
      Transition c .next { c with link := .opened connection }
  | skipped (connection : Nat) (r : Request) (rest : List Request)
      (hl : c.link = .draining connection) (hq : c.outbox.queue = r :: rest)
      (hc : c.isCancelled r.seq = true) :
      Transition c .next { c with
        outbox := { c.outbox with queue := rest }
        history := .discarded r.seq :: c.history }
  | handed (connection : Nat) (r : Request) (rest : List Request)
      (hl : c.link = .draining connection) (hq : c.outbox.queue = r :: rest)
      (hc : c.isCancelled r.seq = false) :
      Transition c .next { c with
        outbox := { c.outbox with queue := rest }.markSent r
        link := .sending connection r
        history := .handed connection r :: c.history }
  | taken (connection : Nat) (r : Request) (hl : c.link = .sending connection r) :
      Transition c .taken { c with
        link := .draining connection
        history := .taken connection r :: c.history }

/-- Nothing happens at all. -/
theorem Transition.refl {e : Event} (hm : c.Mute e) : Transition c e c :=
  .quiet e c.jar c.session c.handlers c.held [] (by simp) id hm
    fun _ => ⟨rfl, rfl, .inr ⟨rfl, rfl⟩⟩

/-! ## Every event is one of them -/

theorem send_transition (c : Client) (uri : String) (body : Body) (response : ResponseType) :
    Transition c (.send uri body response) (c.step (.send uri body response)) := by
  have hmute : c.allocates (.send uri body response) = none →
      c.handsOut (.send uri body response) = none → c.Mute (.send uri body response) :=
    fun h1 h2 => ⟨⟨h1, h2, rfl⟩, rfl, rfl⟩
  by_cases hheld : c.held
  · simp only [step, allocates, handsOut, hheld, if_true] at hmute ⊢
    rcases begin_cases c uri body response with
      ⟨session, result, hb, hnone, hrotated⟩ | ⟨session, address, content, upload, hs, -, -, hb⟩
    · -- A call that comes to nothing is given no number.
      rw [hb] at hmute ⊢
      have hm : c.Mute (.send uri body response) := by
        cases result with
        | error e => exact hmute rfl rfl
        | ok call =>
          obtain rfl := hnone call rfl
          exact hmute rfl rfl
      exact .quiet _ c.jar session c.handlers c.held [] (by simp) hrotated hm nofun
    · rcases accept_eq { c with session := session } address content upload response with
        ⟨r, hr, hacc⟩ | ⟨p, hp, hacc⟩ <;> rw [hacc] at hb <;> rw [hb]
      · exact .numbered uri body response session r hs hr (by simp [allocates, hheld, hb])
          (by simp [handsOut, hheld, hb])
      · exact .reading uri body response session p hs hp (by simp [allocates, hheld, hb])
          (by simp [handsOut, hheld, hb])
  · simp only [step, allocates, handsOut, hheld] at hmute ⊢
    exact .refl (hmute rfl rfl)

theorem finish_transition (c : Client) (seq : ReqSeq) :
    Transition c (.finish seq) (c.step (.finish seq)) := by
  simp only [step]
  cases hf : c.calls.find? fun r => r.seq = seq with
  | none => exact .refl ⟨⟨rfl, by simp [handsOut, hf], rfl⟩, rfl, rfl⟩
  | some r =>
    have hseq : r.seq = seq := by simpa using List.find?_some hf
    subst hseq
    cases hs : c.stopped with
    | true => simpa [finish, hs] using Transition.forsaken r hf hs
    | false => simpa [finish, post, hs] using Transition.posted r hf hs

theorem uploadRead_transition (c : Client) (seq : ReqSeq) (result : Except FileFault Octets) :
    Transition c (.uploadRead seq result) (c.step (.uploadRead seq result)) := by
  simp only [step, uploadRead]
  cases hf : c.uploads.find? fun p => p.seq = seq with
  | none => exact .refl ⟨⟨rfl, rfl, rfl⟩, rfl, rfl⟩
  | some p =>
    have hseq : p.seq = seq := by simpa using List.find?_some hf
    subst hseq
    cases result with
    | error fault => exact .readFailed p _ (.file fault) rfl hf
    | ok octets =>
      by_cases hs : c.stopped = true
      · simp only [if_pos hs]
        exact .readFailed p (.ok octets) .connectionClosed rfl hf
      · simp only [post, if_neg hs]
        exact .readPosted p octets ⟨p.seq, requestFrame c.config.version p.seq p.uri
          p.content (some ⟨p.upload.name, octets⟩), p.response⟩ rfl hf (by simpa using hs)

theorem post_transition (c : Client) {e : Event} {command : Command}
    (hc : requestsOf [command] = []) (hm : c.Mute e) (ha : e.isApplication = true) :
    Transition c e (if c.held then c.post command else c) := by
  unfold post
  split
  · split
    · exact .refl hm
    · rename_i hs
      exact .asked e command hc (by simpa using hs) hm ha
  · exact .refl hm

theorem command_transition (c : Client) : Transition c .command (c.step .command) := by
  simp only [step]
  -- A loop that empties the queue takes no command.
  by_cases hb : c.link.isBusy = true
  · rw [if_pos hb]
    exact .refl ⟨⟨rfl, rfl, rfl⟩, by simp [takes, hb], rfl⟩
  rw [if_neg hb]
  simp only [Bool.not_eq_true] at hb
  unfold takeCommand
  cases hi : c.inbox with
  | nil => exact .refl ⟨⟨rfl, rfl, rfl⟩, by simp [takes, hb, hi], rfl⟩
  | cons command rest =>
    cases command with
    | enqueue r =>
      simp only [enqueue, note]
      split <;> rename_i hc
      · exact .dropped r rest hb hi hc
      · simp only [Bool.not_eq_true] at hc
        simp only [flush]
        cases hl : c.link with
        | opened connection => exact .queuedOpen r rest connection hl hi hc
        | connecting cookies => simpa [hl] using
            Transition.queuedLater r rest (.inl ⟨cookies, hl⟩) hi hc
        | waiting secs => simpa [hl] using Transition.queuedLater r rest (.inr ⟨secs, hl⟩) hi hc
        | draining connection => simp [hl, Link.isBusy] at hb
        | sending connection r => simp [hl, Link.isBusy] at hb
        | disconnected =>
          have hne : (c.outbox.push r).queue.isEmpty = false := by simp [Outbox.push]
          simp only [hne, connect_eq, Bool.false_eq_true, if_false]
          cases hs : c.session.check c.jar.header with
          | mk session status =>
          cases status with
          | unchanged => exact .queuedDialled r rest session hl hi hc hs
          | rotated => exact .queuedRotated r rest session hl hi hc hs
    | clear =>
      simp only [failAll_eq]
      exact .cleared rest hb hi
    | query => exact .queried rest _ hb hi
    | shutdown =>
      simp only [stop_eq]
      exact .halted _ rest hb (.shutdown rest hi)

theorem deserted_transition (c : Client) : Transition c .deserted (c.step .deserted) := by
  simp only [step]
  split
  · rename_i h
    simp only [Bool.and_eq_true, Bool.not_eq_true'] at h
    rw [stop_eq]
    exact .halted _ c.inbox h.2 (.deserted h.1)
  · exact .refl ⟨⟨rfl, rfl, rfl⟩, rfl, rfl⟩

theorem received_transition (c : Client) (b : Octets) :
    Transition c (.received b) (c.step (.received b)) := by
  have hm : c.Mute (.received b) := ⟨⟨rfl, rfl, rfl⟩, rfl, rfl⟩
  have hkept {jar : Jar} {session : Session} : (Event.received b).isApplication = false →
      c.handlers = c.handlers ∧ c.held = c.held ∧
        ((∃ b', Event.received b = .received b') ∨ jar = c.jar ∧ session = c.session) :=
    fun _ => ⟨rfl, rfl, .inl ⟨b, rfl⟩⟩
  simp only [step]
  cases hl : c.link with
  | opened connection =>
    simp only [receive, note]
    cases hj : Inbound.judge c.config.version b with
    | nothing =>
      exact .quiet _ c.jar c.session c.handlers c.held [.received b]
        (by simp [Occurrence.isQuiet]) id hm hkept
    | settle seq outcome =>
      simp only [answer]
      cases ht : c.outbox.take? seq with
      | none =>
        exact .quiet _ c.jar c.session c.handlers c.held [.received b]
          (by simp [Occurrence.isQuiet]) id hm hkept
      | some taken =>
        obtain ⟨r, outbox⟩ := taken
        exact .answered b connection seq outcome r outbox hl hj ht
    | deliver method content =>
      -- A handler reaches the cookies and the session, and no request.
      obtain ⟨session, jar, new, heq, hnew, hrotated⟩ :=
        dispatch_eq { c with history := .received b :: c.history } method content
      simp only [heq]
      have h := Transition.quiet (c := c) _ jar session c.handlers c.held (new ++ [.received b])
        (by simpa [or_imp, forall_and, Occurrence.isQuiet] using hnew) hrotated hm hkept
      simpa using h
  | _ => exact .refl hm

theorem next_transition (c : Client) : Transition c .next (c.step .next) := by
  simp only [step]
  cases hl : c.link with
  | draining connection =>
    simp only [drainNext, Outbox.pop?]
    cases hq : c.outbox.queue with
    | nil => exact .drained connection hl hq
    | cons r rest =>
      by_cases hc : c.isCancelled r.seq = true
      · simp only [if_pos hc]
        exact .skipped connection r rest hl hq hc
      · simp only [if_neg hc]
        exact .handed connection r rest hl hq (by simpa using hc)
  | _ => exact .refl ⟨⟨rfl, rfl, by simp [reaches, hl]⟩, rfl, rfl⟩

theorem retry_transition (c : Client) : Transition c .retry (c.step .retry) := by
  simp only [step]
  cases hl : c.link with
  | waiting secs =>
    simp only [retry, connect_eq]
    cases hs : c.session.check c.jar.header with
    | mk session status =>
    cases status with
    | unchanged => exact .redialled secs session hl hs
    | rotated => exact .rotated secs session hl hs
  | _ => exact .refl ⟨⟨rfl, rfl, rfl⟩, rfl, rfl⟩

theorem ends_transition {e : Event} {clean : Bool} (he : c.Ends e clean) :
    Transition c e (c.disconnect clean) := by
  rw [disconnect_eq clean (by cases he <;> simp_all)]
  exact .ended e clean he

/-- **Every event is one of the cases.** -/
theorem step_transition (c : Client) (e : Event) : Transition c e (c.step e) := by
  cases e with
  | send uri body response => exact send_transition c uri body response
  | finish seq => exact finish_transition c seq
  | cancel seq => exact .cancelled seq
  | register method id =>
    have hm : c.Mute (.register method id) := ⟨⟨rfl, rfl, rfl⟩, rfl, rfl⟩
    simp only [step, register]
    split
    · split
      · exact .refl hm
      · exact .quiet _ c.jar c.session _ c.held [] (by simp) (fun h => h) hm nofun
    · exact .refl hm
  | updateCookies change =>
    have hm : c.Mute (.updateCookies change) := ⟨⟨rfl, rfl, rfl⟩, rfl, rfl⟩
    simp only [step]
    split
    · obtain ⟨session, jar, new, heq, hnew, hrotated⟩ := updateCookies_eq c change
      rw [heq]
      exact .quiet _ jar session c.handlers c.held new hnew hrotated hm nofun
    · exact .refl hm
  | foreign change =>
    exact .quiet _ (change c.jar) c.session c.handlers c.held [] (by simp) id
      ⟨⟨rfl, rfl, rfl⟩, rfl, rfl⟩ nofun
  | clear => exact post_transition c rfl ⟨⟨rfl, rfl, rfl⟩, rfl, rfl⟩ rfl
  | query => exact post_transition c rfl ⟨⟨rfl, rfl, rfl⟩, rfl, rfl⟩ rfl
  | shutdown => exact post_transition c rfl ⟨⟨rfl, rfl, rfl⟩, rfl, rfl⟩ rfl
  | release =>
    exact .quiet _ c.jar c.session c.handlers false [] (by simp) id ⟨⟨rfl, rfl, rfl⟩, rfl, rfl⟩
      nofun
  | uploadRead seq result => exact uploadRead_transition c seq result
  | command => exact command_transition c
  | deserted => exact deserted_transition c
  | connected =>
    simp only [step]
    cases hl : c.link with
    | connecting cookies => exact .connected cookies hl
    | _ => exact .refl ⟨⟨rfl, rfl, rfl⟩, rfl, rfl⟩
  | refused =>
    simp only [step]
    cases hl : c.link with
    | connecting cookies => exact ends_transition (.refused cookies hl)
    | _ => exact .refl ⟨⟨rfl, rfl, rfl⟩, rfl, rfl⟩
  | received b => exact received_transition c b
  | closed clean =>
    simp only [step]
    cases hl : c.link with
    | opened connection => exact ends_transition (.closed connection clean hl)
    | _ => exact .refl ⟨⟨rfl, rfl, rfl⟩, rfl, by simp [breaks, hl]⟩
  | retry => exact retry_transition c
  | next => exact next_transition c
  | taken =>
    simp only [step]
    cases hl : c.link with
    | sending connection r => exact .taken connection r hl
    | _ => exact .refl ⟨⟨rfl, rfl, rfl⟩, rfl, rfl⟩
  | broken =>
    simp only [step]
    cases hl : c.link with
    | sending connection r => exact ends_transition (.broken connection r hl)
    | _ => exact .refl ⟨⟨rfl, rfl, rfl⟩, rfl, by simp [breaks, hl]⟩

end Client

end Courier

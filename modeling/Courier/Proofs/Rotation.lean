import Courier.Proofs.Run
import Courier.Proofs.Session
import Courier.Simulation

/-!
# A rotation is final

Once the client knows that somebody else changed the session cookie, it begins nothing any more:
calls are skipped, the cookies are left alone and no handshake starts. What was under way goes
on, and what still waits for a connection fails as soon as the client would need one.

* `run_rotated`, `run_handshakes`: no run undoes a rotation or starts a handshake after it.
* `jar_step`: no event changes the cookies, unless somebody else does.
* `gaveUp_connect`: an attempt to connect fails every request instead.
* `rotation_final`: **what a client does after a rotation**, at every point of every run.
-/

namespace Courier

/-- The cookies that a handshake presented. -/
@[simp] def Occurrence.dialled? : Occurrence → Option (Option String)
  | .dialled cookies => some cookies
  | _ => none

namespace Client

variable {c c' : Client} {e : Event}

/-- What the handshakes presented, the latest first. -/
def handshakes (c : Client) : List (Option String) :=
  c.history.filterMap Occurrence.dialled?

theorem dialled?_quiet {new : List Occurrence} (h : ∀ o ∈ new, o.isQuiet) :
    new.filterMap Occurrence.dialled? = [] :=
  filterMap_quiet (fun o _ => by cases o <;> simp_all [Occurrence.isQuiet]) h

@[simp] theorem dialled?_failures (rs : List Request) (error : Error) :
    (failures rs error).filterMap Occurrence.dialled? = [] := by
  simp [failures]

@[simp] theorem dialled?_closing (l : Link) : (closing l).filterMap Occurrence.dialled? = [] := by
  cases l <;> rfl

/-! ## What handles find -/

theorem checkSession_of_rotated (h : c.session.rotated = true) : c.checkSession = (c, .rotated) := by
  rw [checkSession, Session.check_of_rotated h]

/-- A call is skipped before anything of it is looked at. -/
theorem begin_of_rotated (h : c.session.rotated = true) (uri : String) (body : Body)
    (response : ResponseType) : c.begin uri body response = (c, .ok .skipped) := by
  rw [begin, checkSession_of_rotated h]

theorem send_of_rotated (h : c.session.rotated = true) (uri : String) (body : Body)
    (response : ResponseType) : c.send uri body response = (c, .ok none) := by
  rw [send, begin_of_rotated h]

/-- The reply is handed out all the same, and it has no number. -/
theorem world_send_of_rotated {w : World} (h : w.client.session.rotated = true) (uri : String)
    (body : Body) (response : ResponseType) (file : Except FileFault Octets) :
    w.send uri body response file =
      ({ w with replies := w.replies ++ [⟨none, true⟩] }, .ok (w.replies.length, none)) := by
  simp only [World.send, send_of_rotated h, Nat.lt_irrefl, if_false]

theorem updateCookies_of_rotated (h : c.session.rotated = true) (change : Jar → Jar) :
    c.updateCookies change = (c, .error (.sessionRotated c.session.cookieName)) := by
  rw [updateCookies, Session.update_of_rotated h]

theorem applyCookieMessage_of_rotated (h : c.session.rotated = true) (content : Value) :
    c.applyCookieMessage content = c := by
  unfold applyCookieMessage
  split
  · rw [updateCookies_of_rotated h]
  · rfl

/-! ## What an event keeps -/

/-- **Nothing undoes a rotation.** -/
theorem Transition.rotated_of_rotated (h : Transition c e c') (hr : c.session.rotated = true) :
    c'.session.rotated = true := by
  cases h with
  | quiet e jar session handlers held new hnew hrotated => exact hrotated hr
  -- A check that passes knows of no rotation.
  | numbered uri body response session r hs | reading uri body response session r hs
  | queuedDialled r rest session hl hi hc hs | redialled secs session hl hs =>
    simp [Session.not_rotated_of_check hs] at hr
  | queuedRotated r rest session hl hi hc hs | rotated secs session hl hs =>
    exact Session.rotated_of_check hs
  | _ => exact hr

theorem run_rotated (h : c.session.rotated = true) (es : List Event) :
    (c.run es).session.rotated = true :=
  run_keeps (P := fun c => c.session.rotated = true) (fun hr ht => ht.rotated_of_rotated hr) h es

/-- **No handshake starts after a rotation.** One that is under way goes on. -/
theorem Transition.undialled (h : Transition c e c') (hr : c.session.rotated = true) :
    c'.handshakes = c.handshakes ∧
      ∀ cookies, c'.link = .connecting cookies → c.link = .connecting cookies := by
  unfold handshakes
  cases h with
  | quiet e jar session handlers held new hnew => exact ⟨by simp [dialled?_quiet hnew], fun _ => id⟩
  -- These are the only two ways to a handshake, and both pass a check first.
  | queuedDialled r rest session hl hi hc hs | redialled secs session hl hs =>
    simp [Session.not_rotated_of_check hs] at hr
  | _ => simp [List.filterMap_cons]

/-- Nor does any in a run. -/
theorem run_handshakes (h : c.session.rotated = true) (es : List Event) :
    (c.run es).handshakes = c.handshakes :=
  (run_keeps (P := fun d => d.session.rotated = true ∧ d.handshakes = c.handshakes)
    (fun hd ht => ⟨ht.rotated_of_rotated hd.1, (ht.undialled hd.1).1.trans hd.2⟩) ⟨h, rfl⟩ es).2

/-! ## What changes the cookies -/

theorem jar_register (c : Client) (method : String) (id : Nat) :
    (c.register method id).1.jar = c.jar := by
  unfold register
  split <;> rfl

theorem jar_dispatch (h : c.session.rotated = true) (method : String) (content : Value) :
    (c.dispatch method content).jar = c.jar := by
  unfold dispatch
  split
  · rfl
  · rw [applyCookieMessage_of_rotated h]
  · rfl

theorem jar_receive (h : c.session.rotated = true) (b : Octets) : (c.receive b).jar = c.jar := by
  simp only [receive]
  split
  · rfl
  · unfold answer
    split <;> rfl
  · exact jar_dispatch (c := c.note (.received b)) h _ _

/-- The loop changes the cookies only when a message says so. -/
theorem Transition.jar_eq (h : Transition c e c') (he : e.isApplication = false)
    (hreceived : ∀ b, e ≠ .received b) : c'.jar = c.jar := by
  cases h with
  | quiet e jar session handlers held new hnew hr hm hk =>
    obtain ⟨-, -, ⟨b, rfl⟩ | hkept⟩ := hk he
    · exact absurd rfl (hreceived b)
    · exact hkept.1
  | _ => rfl

/-- **Nobody but others changes the cookies after a rotation.** -/
theorem jar_step (h : c.session.rotated = true) (he : ∀ change, e ≠ .foreign change) :
    (c.step e).jar = c.jar := by
  rcases e.kinds with hplain | ⟨uri, body, response, rfl⟩ | ⟨method, id, rfl⟩ | ⟨change, rfl⟩ |
    ⟨change, rfl⟩ | hloop
  · obtain ⟨held, cancelled, calls, uploads, inbox, history, hstep⟩ := step_plain c hplain
    rw [hstep]
  · simp only [step, begin_of_rotated h, ite_self]
  · simp only [step]
    split
    · exact jar_register c method id
    · rfl
  · simp only [step, updateCookies_of_rotated h, ite_self]
  · exact absurd rfl (he change)
  · by_cases hreceived : ∃ b, e = .received b
    · obtain ⟨b, rfl⟩ := hreceived
      simp only [step]
      split
      · exact jar_receive h b
      · rfl
    · push Not at hreceived
      exact (step_transition c e).jar_eq hloop hreceived

/-! ## What becomes of the requests -/

/-- The outcome of a request that failed together with others. -/
theorem outcome?_failures {rs : List Request} {r : Request} (hr : r ∈ rs) {error : Error}
    {history : List Occurrence} (hc : c.history = failures rs error ++ history) :
    c.outcome? r.seq = some (.error error) := by
  unfold outcome?
  rw [hc, List.findSome?_append]
  -- Whichever outcome stands first, it is that error.
  cases hfind : (failures rs error).findSome? _ with
  | none =>
    have hmem : .settled r.seq (.error error) ∈ failures rs error :=
      List.mem_reverse.2 (List.mem_map_of_mem hr)
    have hnone := List.findSome?_eq_none_iff.1 hfind _ hmem
    simp at hnone
  | some outcome =>
    obtain ⟨o, ho, hsome⟩ := List.exists_of_findSome?_eq_some hfind
    obtain ⟨q, -, rfl⟩ := List.mem_map.1 (List.mem_reverse.1 ho)
    simp only [Option.ite_none_right_eq_some, Option.some.injEq] at hsome
    rw [← hsome.2, Option.some_or]

/-- A client with these requests and this history gave up: each of the requests failed because
the session was rotated, and nothing else happened. -/
structure GaveUp (cookieName : String) (o : Outbox) (history : List Occurrence) (c : Client) :
    Prop where
  link : c.link = .disconnected
  queue : c.outbox.queue = []
  awaiting : c.outbox.awaiting = []
  history : c.history =
    failures (o.queue ++ o.awaiting.map (·.2.request)) (.sessionRotated cookieName) ++ history
  outcome : ∀ r ∈ o.queue ++ o.awaiting.map (·.2.request),
    c.outcome? r.seq = some (.error (.sessionRotated cookieName))

/-- **An attempt to connect fails every request** after a rotation. -/
theorem gaveUp_connect (h : c.session.rotated = true) :
    GaveUp c.session.cookieName c.outbox c.history c.connect := by
  have hconnect : c.connect = { c with
      link := .disconnected
      outbox := c.outbox.drain.2
      history := failures c.outbox.drain.1 (.sessionRotated c.session.cookieName)
        ++ c.history } := by
    rw [connect_eq, Session.check_of_rotated h]
  rw [hconnect]
  exact ⟨rfl, rfl, rfl, rfl, fun r hr => outcome?_failures hr rfl⟩

/-- The pause before the next attempt is over. -/
theorem gaveUp_retry (h : c.session.rotated = true) {secs : Nat} (hl : c.link = .waiting secs) :
    GaveUp c.session.cookieName c.outbox c.history (c.step .retry) := by
  have hstep : c.step .retry = connect { c with link := .disconnected } := by
    simp only [step, hl, retry]
  rw [hstep]
  exact gaveUp_connect (c := { c with link := .disconnected }) h

theorem queues_eq_some_iff {r : Request} : c.queues e = some r ↔
    e = .command ∧ c.link.isBusy = false ∧ c.inbox.head? = some (.enqueue r) ∧
      c.isCancelled r.seq = false := by
  unfold queues takes
  cases e with
  | command =>
    cases hb : c.link.isBusy with
    | true => simp
    | false =>
      cases c.inbox with
      | nil => simp
      | cons command rest =>
        cases command with
        | enqueue q =>
          simp only [Bool.false_eq_true, if_false, List.head?_cons, Option.ite_none_left_eq_some,
            Bool.not_eq_true, Option.some.injEq, true_and, Command.enqueue.injEq]
          constructor
          · rintro ⟨hc, rfl⟩
            exact ⟨rfl, hc⟩
          · rintro ⟨rfl, hc⟩
            exact ⟨hc, rfl⟩
        | _ => simp
  | _ => simp

/-- A request that finds no connection needs one. -/
theorem enqueue_of_disconnected {r : Request} (hl : c.link = .disconnected)
    (hc : c.isCancelled r.seq = false) :
    c.enqueue r = connect (note { c with outbox := c.outbox.push r } (.queued r)) := by
  have hne : (c.outbox.push r).queue.isEmpty = false := by simp [Outbox.push]
  have hwanted : ¬ c.isCancelled r.seq = true := by simp [hc]
  rw [enqueue, if_neg hwanted]
  simp only [flush, note, hl, hne, Bool.false_eq_true, if_false]

/-- A request is queued while there is neither a connection nor a plan for one. -/
theorem gaveUp_queues (h : c.session.rotated = true) (hl : c.link = .disconnected) {r : Request}
    (hq : c.queues e = some r) :
    GaveUp c.session.cookieName (c.outbox.push r) (.queued r :: c.history) (c.step e) := by
  obtain ⟨rfl, hb, hi, hc⟩ := queues_eq_some_iff.1 hq
  obtain ⟨rest, hi⟩ := List.head?_eq_some_iff.1 hi
  have hstep : c.step .command = enqueue { c with inbox := rest } r := by
    simp only [step, takeCommand, hb, hi, Bool.false_eq_true, if_false]
  rw [hstep, enqueue_of_disconnected (c := { c with inbox := rest }) hl hc]
  exact gaveUp_connect (c := note { c with
    inbox := rest
    outbox := c.outbox.push r } (.queued r)) h

/-! ## After a rotation -/

/-- What a client does that knows of a rotation. -/
structure Sealed (c : Client) : Prop where
  /-- It knows for good. -/
  rotated : c.session.rotated = true
  /-- A call is given no number, whatever it sends and whether the loop runs or not. -/
  skipped : ∀ uri body response,
    c.begin uri body response = (c, .ok .skipped) ∧ c.send uri body response = (c, .ok none)
  /-- The application is told so at once. -/
  abandoned : ∀ (w : World) uri body response file, w.client = c →
    w.send uri body response file =
      ({ w with replies := w.replies ++ [⟨none, true⟩] }, .ok (w.replies.length, none)) ∧
    ∀ later : World, later.outcome? ⟨none, true⟩ = some (.error .abandoned)
  /-- A change of the cookies is refused. -/
  refused : ∀ change, c.updateCookies change =
    (c, .error (.sessionRotated c.session.cookieName))
  /-- A message that changes the cookies is ignored. -/
  ignored : ∀ content, c.applyCookieMessage content = c
  /-- Only somebody else changes the cookies. -/
  jar : ∀ e, (∀ change, e ≠ .foreign change) → (c.step e).jar = c.jar
  /-- No handshake starts. -/
  undialled : ∀ e, (c.step e).handshakes = c.handshakes ∧
    ∀ cookies, (c.step e).link = .connecting cookies → c.link = .connecting cookies
  /-- After a pause it gives up. -/
  retry : ∀ secs, c.link = .waiting secs →
    GaveUp c.session.cookieName c.outbox c.history (c.step .retry)
  /-- And so it does when a request is queued without a connection. -/
  queued : ∀ e r, c.link = .disconnected → c.queues e = some r →
    GaveUp c.session.cookieName (c.outbox.push r) (.queued r :: c.history) (c.step e)

/-- **A rotation is final**: whatever happens to a client that knows of one, it starts no
handshake and stays sealed. -/
theorem rotation_final (h : c.session.rotated = true) (events : List Event) :
    (c.run events).handshakes = c.handshakes ∧ Sealed (c.run events) := by
  have hr := run_rotated h events
  refine ⟨run_handshakes h events, hr,
    fun _ _ _ => ⟨begin_of_rotated hr _ _ _, send_of_rotated hr _ _ _⟩, ?_,
    updateCookies_of_rotated hr, applyCookieMessage_of_rotated hr, fun _ => jar_step hr,
    fun e => (step_transition _ e).undialled hr, fun _ => gaveUp_retry hr,
    fun _ _ hl => gaveUp_queues hr hl⟩
  intro w uri body response file hw
  exact ⟨world_send_of_rotated (hw ▸ hr) uri body response file, fun _ => rfl⟩

/-- A client that presented the session `1` and got no connection. Then somebody else began the
session `2`, which the next call noticed. -/
def displaced : Client :=
  (start .standard (.new "sid") (Jar.empty.insert "sid" "1")).run
    [.send "/a" .empty .raw, .finish 1, .command, .refused, .foreign (·.insert "sid" "2"),
      .send "/b" .empty .raw]

theorem rotation_final_displaced :
    displaced.session.rotated = true ∧ displaced.link = .waiting 1 ∧
      displaced.outbox.queue.map (·.seq) = [1] ∧
      (displaced.step .retry).outcome? 1 = some (.error (.sessionRotated "sid")) ∧
      ∀ events, Sealed (displaced.run events) := by
  have hrotated : displaced.session.rotated = true := by decide +kernel
  have hlink : displaced.link = .waiting 1 := by decide +kernel
  have hqueue : displaced.outbox.queue.map (·.seq) = [1] := by decide +kernel
  have hname : displaced.session.cookieName = "sid" := by decide +kernel
  refine ⟨hrotated, hlink, hqueue, ?_, fun events => (rotation_final hrotated events).2⟩
  obtain ⟨r, hr, hseq⟩ := List.mem_map.1 (hqueue ▸ List.mem_singleton_self 1)
  have hgaveUp := (rotation_final hrotated []).2.retry 1 hlink
  have houtcome := hgaveUp.outcome r (List.mem_append_left _ hr)
  rw [run_nil, hseq, hname] at houtcome
  exact houtcome

end Client

end Courier

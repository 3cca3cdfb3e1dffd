import Courier.Proofs.Application
import Courier.Proofs.Correlation
import Courier.Proofs.Outcomes

/-!
# Messages reach the first handler

A message is for whoever registered first for its method. It concerns no request: whatever number
its header carries, and whatever is wrong with it, no request learns of it.

* `lookup_handlers`: the handlers are those that were asked for first.
* `message_dispatched`: **what a message does**, in any reachable client and for any octets whose
  header is that of a message.
-/

namespace Courier

/-- The handler of a method after these registrations were asked for: the client's own for the
cookies, else the first. -/
def firstHandler (registered : List (String × Nat)) (method : String) : Option Handler :=
  if method = Client.cookiesMethod then some .cookies
  else (registered.lookup method).map .application

/-- A handler is run on a message. -/
def Handler.run (handler : Handler) (method : String) (content : Value) (c : Client) : Client :=
  match handler with
  | .cookies => c.applyCookieMessage content
  | .application id => c.note (.delivered id method content)

namespace Client

variable {c : Client} {e : Event} {b : Octets} {method : String}

/-! ## Registrations -/

/-- A registration is refused exactly if the method has a handler. -/
theorem register_eq (c : Client) (method : String) (id : Nat) :
    c.register method id = match c.handlers.lookup method with
      | some _ => (c, .error (.duplicateHandler method))
      | none => ({ c with handlers := c.handlers ++ [(method, .application id)] }, .ok ()) := by
  unfold register
  cases c.handlers.lookup method <;> rfl

/-- Events that ask for no handler leave the handlers as they are. -/
theorem step_handlers (h : c.registers e = none) : (c.step e).handlers = c.handlers := by
  rcases e.kinds with hplain | ⟨uri, body, response, rfl⟩ | ⟨method, id, rfl⟩ | ⟨change, rfl⟩ |
    ⟨change, rfl⟩ | hloop
  · obtain ⟨held, cancelled, calls, uploads, inbox, history, hstep⟩ := step_plain c hplain
    rw [hstep]
  · obtain ⟨session, lastSeq, calls, uploads, hbegin⟩ := begin_eq c uri body response
    simp only [step]
    split
    · rw [hbegin]
    · rfl
  · have hheld : ¬ c.held = true := by simpa [registers] using h
    simp only [step, if_neg hheld]
  · obtain ⟨session, jar, new, hupdate, -⟩ := updateCookies_eq c change
    simp only [step]
    split
    · rw [hupdate]
    · rfl
  · rfl
  · exact ((step_transition c e).alike hloop).handlers_eq

/-- A registration gives its method a handler unless it has one, and no other method. -/
theorem lookup_register (c : Client) (method' : String) (id : Nat) (method : String) :
    (c.register method' id).1.handlers.lookup method = (c.handlers.lookup method).or
      (([(method', id)].lookup method).map .application) := by
  rw [register_eq]
  by_cases hm : method = method'
  · rw [hm]
    cases hl : c.handlers.lookup method' with
    | none => simp [List.lookup_append, hl]
    | some handler => simp [hl]
  · have hne : (method == method') = false := by simpa using hm
    cases c.handlers.lookup method' with
    | none => simp [List.lookup_append, List.lookup_cons, hne]
    | some handler => simp [List.lookup_cons, hne]

theorem step_lookup (c : Client) (e : Event) (method : String) :
    (c.step e).handlers.lookup method = (c.handlers.lookup method).or
      (((c.registers e).toList.lookup method).map .application) := by
  cases hr : c.registers e with
  | none =>
    rw [step_handlers hr]
    simp
  | some registration =>
    cases e with
    | register method' id =>
      simp only [registers, Option.ite_none_right_eq_some, Option.some.injEq] at hr
      obtain ⟨hheld, rfl⟩ := hr
      simp only [step, if_pos hheld]
      exact lookup_register c method' id method
    | _ => cases hr

/-- **A method keeps its handler**: a run only adds handlers to methods without one. -/
theorem run_lookup (c : Client) (events : List Event) (method : String) :
    (c.run events).handlers.lookup method = (c.handlers.lookup method).or
      (((c.along registers events).lookup method).map .application) := by
  induction events generalizing c with
  | nil => simp [along]
  | cons e events ih =>
    rw [run_cons, ih, step_lookup, along, List.lookup_append, Option.map_or, Option.or_assoc]

/-- **The handlers are those that were asked for first.** -/
theorem lookup_handlers (config : Config) (session : Session) (jar : Jar) (events : List Event)
    (method : String) :
    ((start config session jar).run events).handlers.lookup method =
      firstHandler ((start config session jar).along registers events) method := by
  rw [run_lookup, firstHandler]
  -- The client's own handler was there before all others.
  by_cases hm : method = cookiesMethod
  · subst hm
    simp [start]
  · have hne : (method == cookiesMethod) = false := by simpa using hm
    simp [start, List.lookup_cons, hne, hm]

/-! ## Messages -/

/-- A message that carries something runs the handler of its method, if there is one. -/
theorem receive_of_carries {content : Value}
    (h : CarriesMessage c.config.version b method content) :
    c.receive b = match c.handlers.lookup method with
      | some handler => handler.run method content (c.note (.received b))
      | none => c.note (.received b) := by
  have hj : Inbound.judge c.config.version b = .deliver method content := judge_eq_deliver_iff.2 h
  simp only [receive, note, hj, dispatch]
  cases c.handlers.lookup method with
  | none => rfl
  | some handler => cases handler <;> rfl

/-- What a client does about messages that finds octets `b`, after these registrations were
asked for. -/
structure Dispatched (registered : List (String × Nat)) (c : Client) (b : Octets) : Prop where
  outbox_eq : (c.receive b).outbox = c.outbox
  link_eq : (c.receive b).link = c.link
  backoff_eq : (c.receive b).backoff = c.backoff
  /-- No request changes its place. -/
  numbersAt_eq : ∀ place, (c.receive b).numbersAt place = c.numbersAt place
  /-- Nor does one get an outcome, or another one. -/
  outcome_eq : ∀ n, (c.receive b).outcome? n = c.outcome? n
  /-- A message that is in order runs the first handler of its method, once, and nothing else
  happens. -/
  ran : ∀ method content handler, CarriesMessage c.config.version b method content →
    firstHandler registered method = some handler →
    c.receive b = handler.run method content (c.note (.received b))
  /-- Any other runs none. -/
  idle : (∀ method content, CarriesMessage c.config.version b method content →
    firstHandler registered method = none) → c.receive b = c.note (.received b)
  /-- A method that has a handler gets no other one. -/
  refused : ∀ method id, (firstHandler registered method).isSome →
    c.register method id = (c, .error (.duplicateHandler method))
  /-- One that has none gets it, after all others. -/
  granted : ∀ method id, firstHandler registered method = none →
    c.register method id =
      ({ c with handlers := c.handlers ++ [(method, .application id)] }, .ok ())

/-- **A message reaches the first handler of its method and no request**, whatever number it
carries and whatever is wrong with it. -/
theorem message_dispatched (config : Config) (session : Session) (jar : Jar)
    (events : List Event) {frame : Inbound} (hd : Inbound.decode? b = some frame)
    (hk : frame.header.kind = 4) :
    Dispatched ((start config session jar).along registers events)
      ((start config session jar).run events) b := by
  have hlookup := lookup_handlers config session jar events
  set c := (start config session jar).run events
  set registered := (start config session jar).along registers events
  -- A message addresses no request, so it reaches the cookies and the history at most.
  have hno : ∀ n, ¬ Addresses b n := not_addresses_message hd hk
  obtain ⟨jar', session', new, heq, hnew⟩ :=
    receive_of_not_addressed (c := c) fun n ha => absurd ha (hno n)
  refine ⟨by rw [heq], by rw [heq], by rw [heq], ?_, ?_, ?_, ?_, ?_, ?_⟩
  · intro place
    rw [heq]
    cases place with
    | settled => simp [numbersAt, settled?_quiet hnew]
    | discarded => simp [numbersAt, discarded?_quiet hnew]
    | _ => rfl
  · intro n
    have houtcomes : (c.receive b).outcomes = c.outcomes := by
      rw [heq]
      simp [outcomes, outcome?_quiet hnew]
    rw [outcome?_eq_lookup, outcome?_eq_lookup, houtcomes]
  · intro method content handler hcarries hfirst
    rw [receive_of_carries hcarries, hlookup, hfirst]
  · intro hidle
    by_cases hcarries : ∃ method content, CarriesMessage c.config.version b method content
    · obtain ⟨method, content, hcarries⟩ := hcarries
      rw [receive_of_carries hcarries, hlookup, hidle method content hcarries]
    · push Not at hcarries
      simp only [receive, note, judge_message hd hk hcarries]
  · intro method id hsome
    obtain ⟨handler, hfirst⟩ := Option.isSome_iff_exists.1 hsome
    rw [register_eq, hlookup, hfirst]
  · intro method id hnone
    rw [register_eq, hlookup, hnone]

/-- A message whose header also carries the number of a request. -/
def messageTo (method : String) (n : ReqSeq) : Octets :=
  Frame.encode ⟨⟨Config.standard.version, 4, some n, none, some method⟩, .nil, []⟩

/-- Of two handlers of a method the first gets the message, and the request whose number is on it
goes on waiting. -/
theorem message_dispatched_colliding :
    let events := .register "progress" 7 :: .register "progress" 8 :: transmission
    let c := fresh.run events
    c.receive (messageTo "progress" 1) =
        (c.note (.received (messageTo "progress" 1))).note (.delivered 7 "progress" .nil) ∧
      (c.receive (messageTo "progress" 1)).numbersAt .awaiting = [1] := by
  intro events c
  have hd : Inbound.decode? (messageTo "progress" 1) =
      some ⟨⟨Config.standard.version, 4, some 1, none, some "progress"⟩, some .nil, 0⟩ := rfl
  have hregistered : fresh.along registers events = [("progress", 7), ("progress", 8)] := by
    decide +kernel
  have hversion : c.config.version = Config.standard.version := by decide +kernel
  have hfirst : firstHandler (fresh.along registers events) "progress" = some (.application 7) := by
    rw [hregistered]
    decide
  have hawaiting : c.numbersAt .awaiting = [1] := by decide +kernel
  have h : Dispatched (fresh.along registers events) c (messageTo "progress" 1) :=
    message_dispatched .standard (.new "sid") .empty events hd rfl
  refine ⟨?_, (h.numbersAt_eq .awaiting).trans hawaiting⟩
  exact h.ran "progress" .nil (.application 7) ⟨_, hd, rfl, hversion.symm, rfl, rfl⟩ hfirst

end Client

end Courier

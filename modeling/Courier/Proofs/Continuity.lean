import Courier.Proofs.Application
import Courier.Proofs.Rotation

/-!
# Handshakes continue a session

What a handshake presents was looked at just before, so its session is the one that the client
knows. A session that somebody else replaced is never presented: from one handshake to the next
the session stays the same unless the client itself changed the cookies in between.

* `Transition.dials`: a handshake starts only where a check of the cookies passed.
* `step_seen`: what an event does to the session that is remembered.
* `handshakes_continuous`: **each handshake presents the cookies as they are and the session as
  it is known**, and only a change by the client brings another session.
-/

namespace Courier.Client

variable {c c' : Client} {e : Event} {cookies : Option String} {name value : String}

/-- From `c` to `c'` a handshake starts that presents these cookies. -/
structure Dials (c c' : Client) (cookies : Option String) : Prop where
  recorded : c'.handshakes = cookies :: c.handshakes
  link_eq : c'.link = .connecting cookies

/-- From `c` to `c'` no handshake starts. -/
structure Undialled (c c' : Client) : Prop where
  recorded : c'.handshakes = c.handshakes
  link_eq : ∀ cookies, c'.link = .connecting cookies → c.link = .connecting cookies

/-- The client itself changes the cookies at an event, and succeeds. -/
inductive Updates (c : Client) : Event → Prop where
  /-- A handle does. -/
  | handle (change : Jar → Jar) (hheld : c.held = true)
      (hok : (c.updateCookies change).2 = .ok ()) : Updates c (.updateCookies change)
  /-- A message to the handler of the cookies does. -/
  | message (b : Octets) (connection : Nat) (method : String) (content : Value)
      (lines : List String) (hl : c.link = .opened connection)
      (hj : Inbound.judge c.config.version b = .deliver method content)
      (hh : c.handlers.lookup method = some .cookies) (hlines : cookieLines? content = some lines)
      (hok : ((c.note (.received b)).updateCookies (·.applyLines lines)).2 = .ok ()) :
      Updates c (.received b)

/-! ## Handshakes -/

theorem Undialled.not_dials (h : Undialled c c') : ¬ Dials c c' cookies := by
  intro hd
  have hlen := congrArg List.length (h.recorded.symm.trans hd.recorded)
  simp at hlen

theorem Dials.unique {cookies' : Option String} (h : Dials c c' cookies)
    (h' : Dials c c' cookies') : cookies = cookies' :=
  (List.cons.inj (h.recorded.symm.trans h'.recorded)).1

/-- **A handshake starts only where a check passed**, and it presents the cookies that were
checked. -/
theorem Transition.dials (h : Transition c e c') :
    Undialled c c' ∨
      c.session.check c.jar.header = (c'.session, .unchanged) ∧ c'.jar = c.jar ∧
        Dials c c' c.jar.header? := by
  cases h with
  -- The loop dials for a request without a connection, and after a pause.
  | queuedDialled r rest session hl hi hc hs => exact .inr ⟨hs, rfl, ⟨rfl, rfl⟩⟩
  | redialled secs session hl hs => exact .inr ⟨hs, rfl, ⟨rfl, rfl⟩⟩
  | quiet e jar session handlers held new hnew =>
    exact .inl ⟨by simp [handshakes, dialled?_quiet hnew], fun _ => id⟩
  | _ => exact .inl ⟨by simp [handshakes, List.filterMap_cons], by simp⟩

/-! ## The session that is remembered -/

/-- What becomes of the session that a client remembers when it comes to `c'`. -/
inductive Seen (c : Client) (e : Event) (c' : Client) : Prop where
  | kept (hs : c'.session = c.session)
  | checked (hs : c'.session = (c.session.check c.jar.header).1)
  | updated (hu : c.Updates e) (header : String)
      (hs : c'.session = (c.session.check c.jar.header).1.snapshot header)

/-- A change of the cookies checks them first, and then succeeds or not. -/
theorem updateCookies_cases (c : Client) (change : Jar → Jar) :
    (c.updateCookies change).1.session = (c.session.check c.jar.header).1 ∨
      (c.updateCookies change).2 = .ok () ∧ (c.updateCookies change).1.session =
        (c.session.check c.jar.header).1.snapshot (change c.jar).header := by
  simp only [updateCookies, Session.update]
  rcases c.session.check c.jar.header with ⟨session, _ | _⟩
  · exact .inr ⟨rfl, rfl⟩
  · exact .inl rfl

theorem application_seen (he : e.isApplication = true) : Seen c e (c.step e) := by
  have hsession := application_session (c := c) he
  unfold sessionAfter at hsession
  cases e with
  | send uri body response =>
    simp only at hsession
    split at hsession
    · exact .checked hsession
    · exact .kept hsession
  | updateCookies change =>
    by_cases hheld : c.held = true
    · simp only [step, if_pos hheld]
      rcases updateCookies_cases c change with hchecked | ⟨hok, hupdated⟩
      · exact .checked hchecked
      · exact .updated (.handle change hheld hok) _ hupdated
    · simp only [if_neg hheld] at hsession
      exact .kept hsession
  | _ => exact .kept hsession

theorem received_seen (c : Client) (b : Octets) :
    Seen c (.received b) (c.step (.received b)) := by
  simp only [step]
  cases hl : c.link with
  | opened connection =>
    simp only [receive]
    have hversion : (c.note (.received b)).config = c.config := rfl
    rw [hversion]
    cases hj : Inbound.judge c.config.version b with
    | nothing => exact .kept rfl
    | settle n outcome =>
      simp only [answer]
      split <;> exact .kept rfl
    | deliver method content =>
      have hhandlers : (c.note (.received b)).handlers = c.handlers := rfl
      simp only [dispatch, hhandlers]
      cases hh : c.handlers.lookup method with
      | none => exact .kept rfl
      | some handler =>
        cases handler with
        | application id => exact .kept rfl
        | cookies =>
          simp only [applyCookieMessage]
          cases hlines : cookieLines? content with
          | none => exact .kept rfl
          | some lines =>
            rcases updateCookies_cases (c.note (.received b)) (·.applyLines lines) with
              hchecked | ⟨hok, hupdated⟩
            · exact .checked hchecked
            · exact .updated (.message b connection method content lines hl hj hh hlines hok) _
                hupdated
  | _ => exact .kept rfl

theorem Transition.loop_seen (h : Transition c e c') (he : e.isApplication = false)
    (hb : ∀ b, e ≠ .received b) : Seen c e c' := by
  cases h with
  | quiet e jar session handlers held new hnew hr hm hk =>
    obtain ⟨-, -, ⟨b, heq⟩ | ⟨-, hsession⟩⟩ := hk he
    · exact absurd heq (hb b)
    · exact .kept hsession
  | queuedDialled r rest session hl hi hc hs | queuedRotated r rest session hl hi hc hs
  | redialled secs session hl hs | rotated secs session hl hs =>
    exact .checked (by rw [hs])
  | numbered | reading => cases he
  | _ => exact .kept rfl

/-- **What an event does to the session that is remembered.** -/
theorem step_seen (c : Client) (e : Event) : Seen c e (c.step e) := by
  by_cases he : e.isApplication = true
  · exact application_seen he
  by_cases hb : ∃ b, e = .received b
  · obtain ⟨b, rfl⟩ := hb
    exact received_seen c b
  · push Not at hb
    exact (step_transition c e).loop_seen (by simpa using he) hb

/-- A client remembers the session of this cookie, with the value in the header that it saw. -/
structure Remembers (name : String) (c : Client) : Prop where
  cookieName_eq : c.session.cookieName = name
  faithful : c.session.Faithful

theorem Remembers.seen (h : Remembers name c) (hs : Seen c e c') : Remembers name c' := by
  have hname := (Session.cookieName_check c.session c.jar.header).trans h.cookieName_eq
  cases hs with
  | kept hs => exact ⟨hs ▸ h.cookieName_eq, hs ▸ h.faithful⟩
  | checked hs => exact ⟨hs ▸ hname, hs ▸ h.faithful.check _⟩
  | updated hu header hs => exact ⟨hs ▸ hname, hs ▸ Session.faithful_snapshot _ _⟩

theorem remembers_run (h : Remembers name c) (es : List Event) : Remembers name (c.run es) := by
  induction es generalizing c with
  | nil => exact h
  | cons e es ih => exact ih (h.seen (step_seen c e))

/-- **Only a change by the client** makes it forget a value without noticing. -/
theorem Seen.updates_of_not_holds (h : Seen c e c') (hr : Remembers name c)
    (hc : c.session.Holds value) (hc' : ¬ c'.session.Holds value) : c.Updates e := by
  cases h with
  | kept hs =>
    rw [hs] at hc'
    exact absurd hc hc'
  | checked hs =>
    rw [hs] at hc'
    exact absurd (hc.check hr.faithful _) hc'
  | updated hu => exact hu

/-! ## Continuity -/

/-- A handshake that leads to `c` presents these cookies: they are those of the store, and the
session in them is the one that the client knows. -/
structure Presents (name : String) (c : Client) (cookies : Option String) : Prop where
  none_iff : cookies = none ↔ c.jar.header = ""
  header_eq : ∀ text, cookies = some text → text = c.jar.header
  value_eq : cookies.bind (Session.extract name) = c.session.lastValue

/-- The session in what a store presents is the one in its header. -/
theorem bind_header? (jar : Jar) (name : String) :
    jar.header?.bind (Session.extract name) = Session.extract name jar.header := by
  unfold Jar.header?
  split
  · rename_i hempty
    rw [hempty, Session.extract_empty]
    rfl
  · rfl

/-- What is true of the handshakes of a client from now on. -/
structure Continuous (name : String) (c : Client) : Prop where
  /-- Each presents the cookies as they are, and changes none. -/
  presented : ∀ e, Undialled c (c.step e) ∨ ∃ cookies, Dials c (c.step e) cookies ∧
    (c.step e).jar = c.jar ∧ Presents name (c.step e) cookies
  /-- After one that presented a session, another one presents that session too, unless the
  client itself changed the cookies in between. -/
  replaced : ∀ e between e' cookies cookies' value,
    Dials c (c.step e) cookies → cookies.bind (Session.extract name) = some value →
    Dials ((c.step e).run between) (((c.step e).run between).step e') cookies' →
    cookies'.bind (Session.extract name) ≠ some value →
    ∃ before u after, between = before ++ u :: after ∧ Updates ((c.step e).run before) u

/-- What is presented is what was checked. -/
theorem Remembers.presents (h : Remembers name c) (hj : c'.jar = c.jar)
    (hs : c.session.check c.jar.header = (c'.session, .unchanged)) :
    Presents name c' c.jar.header? where
  none_iff := by
    rw [hj, Jar.header?]
    split <;> simp_all
  header_eq text htext := by
    rw [Jar.header?] at htext
    split at htext
    · cases htext
    · cases htext
      rw [hj]
  value_eq := by
    have hsnapshot := (h.faithful.unchanged hs).1
    rw [bind_header?, hsnapshot, ← h.cookieName_eq]
    rfl

theorem Remembers.presented (h : Remembers name c) (e : Event) :
    Undialled c (c.step e) ∨ ∃ cookies, Dials c (c.step e) cookies ∧
      (c.step e).jar = c.jar ∧ Presents name (c.step e) cookies := by
  rcases (step_transition c e).dials with hundialled | ⟨hs, hj, hdials⟩
  · exact .inl hundialled
  · exact .inr ⟨_, hdials, hj, h.presents hj hs⟩

/-- The session in what a handshake presents is remembered. -/
theorem Remembers.holds_of_dials (h : Remembers name c) (hd : Dials c (c.step e) cookies)
    (hv : cookies.bind (Session.extract name) = some value) :
    (c.step e).session.Holds value := by
  rcases h.presented e with hundialled | ⟨cookies', hd', -, hpresents⟩
  · exact absurd hd hundialled.not_dials
  · obtain rfl := hd.unique hd'
    exact .inr (hpresents.value_eq ▸ hv)

/-- A handshake presents the session that was remembered before. -/
theorem Remembers.presents_held (h : Remembers name c) (hd : Dials c (c.step e) cookies)
    (hc : c.session.Holds value) : cookies.bind (Session.extract name) = some value := by
  rcases (step_transition c e).dials with hundialled | ⟨hs, -, hd'⟩
  · exact absurd hd hundialled.not_dials
  · obtain rfl := hd.unique hd'
    -- The check before it passed, so the value that was remembered is still in the header.
    have hunrotated := Session.not_rotated_of_check hs
    have hvalue : c.session.lastValue = some value := by simpa [Session.Holds, hunrotated] using hc
    rcases (h.faithful.unchanged hs).2 with hnone | hextract
    · simp [hnone] at hvalue
    · rw [bind_header?, ← h.cookieName_eq, ← hextract, hvalue]

theorem Remembers.replaced (h : Remembers name c) {between : List Event} {e' : Event}
    {cookies' : Option String} (hd : Dials c (c.step e) cookies)
    (hv : cookies.bind (Session.extract name) = some value)
    (hd' : Dials ((c.step e).run between) (((c.step e).run between).step e') cookies')
    (hv' : cookies'.bind (Session.extract name) ≠ some value) :
    ∃ before u after, between = before ++ u :: after ∧ Updates ((c.step e).run before) u := by
  have hafter : Remembers name (c.step e) := h.seen (step_seen c e)
  have hfirst : (c.step e).session.Holds value := h.holds_of_dials hd hv
  have hlast : ¬ ((c.step e).run between).session.Holds value := fun hholds =>
    hv' ((remembers_run hafter between).presents_held hd' hholds)
  -- Somewhere in between the value is forgotten.
  obtain ⟨before, u, after, rfl, hbefore, hu⟩ :=
    exists_first (P := fun d => ¬ d.session.Holds value) (not_not_intro hfirst) hlast
  refine ⟨before, u, after, rfl, ?_⟩
  exact (step_seen _ u).updates_of_not_holds (remembers_run hafter before)
    (Classical.not_not.1 hbefore) hu

/-- **Handshakes continue a session**, whatever others do to the cookies. -/
theorem handshakes_continuous (config : Config) (name : String) (jar : Jar)
    (events : List Event) :
    Continuous name ((start config (.new name) jar).run events) := by
  have hstart : Remembers name (start config (.new name) jar) := ⟨rfl, Session.faithful_new name⟩
  have h := remembers_run hstart events
  exact ⟨h.presented, fun _ _ _ _ _ _ => h.replaced⟩

/-- A session is presented and the handshake fails. The client begins another session then, and
that is the one which it presents next. -/
theorem handshakes_continuous_updated :
    let jar := Jar.empty.insert "sid" "1"
    let c := (start .standard (.new "sid") jar).run [.send "/a" .empty .raw, .finish 1]
    let between := [.refused, .updateCookies (·.insert "sid" "2")]
    Dials c (c.step .command) (some "sid=1") ∧
      Dials ((c.step .command).run between) (((c.step .command).run between).step .retry)
        (some "sid=2") ∧
      ∃ before u after, between = before ++ u :: after ∧
        Updates ((c.step .command).run before) u := by
  intro jar c between
  have hfirst : Dials c (c.step .command) (some "sid=1") := ⟨by decide +kernel, by decide +kernel⟩
  have hsecond : Dials ((c.step .command).run between)
      (((c.step .command).run between).step .retry) (some "sid=2") :=
    ⟨by decide +kernel, by decide +kernel⟩
  have h : Continuous "sid" c := handshakes_continuous .standard "sid" jar _
  exact ⟨hfirst, hsecond, h.replaced _ between _ _ _ "1" hfirst (by decide) hsecond (by decide)⟩

end Courier.Client

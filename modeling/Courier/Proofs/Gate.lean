import Courier.Proofs.Canonical
import Courier.Proofs.Detection
import Courier.Proofs.Dispatch
import Courier.Proofs.Rotation

/-!
# Changes of the cookies are made as a whole or not at all

A client asks its session before it changes the cookies. If a rotation is known, or the check finds
one, nothing is changed. Otherwise the whole change is made, and the session remembers its result,
so that the client never takes it for a rotation, whatever becomes of the session cookie by it.

* `Refuses`: when a session refuses a change. `gated_update`: **all or nothing**, for any store.
* `LinesOf`: the cookie lines in a message, by its content. `cookieLines?_eq_some_iff`.
* `Current.run`: **no later check fails** until somebody else changes the cookies.
* `cookies_gated`: **what becomes of changes of the cookies**, in any reachable client.
-/

namespace Courier

namespace Session

variable {σ : Type} {s : Session} {header : String}

/-! ## One change -/

/-- A session refuses changes of a store with this header: it knows of a rotation, or the header is
another one and the value that was last seen is lost in it. -/
def Refuses (s : Session) (header : String) : Prop :=
  s.rotated = true ∨ s.lastHeader ≠ some header ∧ s.Lost header

/-- A session that has seen this header last, and knows of no rotation. -/
structure Current (s : Session) (header : String) : Prop where
  unrotated : s.rotated = false
  seen : s.lastHeader = some header

/-- **Every session refuses or passes**, also one that does not remember what it saw. -/
theorem refuses_cases (s : Session) (header : String) :
    s.Refuses header ∧ (∃ s', s'.rotated = true ∧ s.check header = (s', .rotated)) ∨
      ¬ s.Refuses header ∧ ∃ s', s'.rotated = false ∧ s.check header = (s', .unchanged) := by
  unfold Refuses Lost check
  cases hr : s.rotated with
  | true => exact .inl ⟨.inl rfl, s, hr, rfl⟩
  | false =>
    simp only [Bool.false_eq_true, if_false, false_or]
    by_cases hl : s.lastHeader = some header
    · rw [if_pos hl]
      exact .inr ⟨fun h => h.1 hl, s, hr, rfl⟩
    rw [if_neg hl]
    have hseen : (s.snapshot header).lastValue = extract s.cookieName header := rfl
    cases hv : s.lastValue with
    | none => exact .inr ⟨by simp, s.snapshot header, hr, rfl⟩
    | some previous =>
      simp only [hseen]
      by_cases hkept : extract s.cookieName header = some previous
      · rw [if_pos hkept]
        refine .inr ⟨?_, s.snapshot header, hr, rfl⟩
        rintro ⟨-, value, hvalue, hother⟩
        cases hvalue
        exact hother hkept
      · rw [if_neg hkept]
        exact .inl ⟨⟨hl, previous, rfl, hkept⟩, _, rfl, rfl⟩

theorem update_of_refuses {toHeader : σ → String} {store : σ} (h : s.Refuses (toHeader store))
    (change : σ → σ) :
    ∃ s', s'.rotated = true ∧ s.update toHeader store change = (s', store, false) := by
  rcases refuses_cases s (toHeader store) with ⟨-, s', hr, hcheck⟩ | ⟨hnot, -⟩
  · exact ⟨s', hr, by rw [update, hcheck]⟩
  · exact absurd h hnot

/-- A change that is made leaves a session that has seen its result. -/
theorem update_of_not_refuses {toHeader : σ → String} {store : σ}
    (h : ¬ s.Refuses (toHeader store)) (change : σ → σ) :
    ∃ s', s'.Current (toHeader (change store)) ∧
      s.update toHeader store change = (s', change store, true) := by
  rcases refuses_cases s (toHeader store) with ⟨hrefuses, -⟩ | ⟨-, s', hr, hcheck⟩
  · exact absurd hrefuses h
  · exact ⟨s'.snapshot (toHeader (change store)), ⟨hr, rfl⟩, by rw [update, hcheck]⟩

/-! ## Later operations -/

theorem Current.not_refuses (h : s.Current header) : ¬ s.Refuses header := by
  rintro (hr | ⟨hother, -⟩)
  · rw [h.unrotated] at hr
    cases hr
  · exact hother h.seen

theorem Current.check_eq (h : s.Current header) : s.check header = (s, .unchanged) := by
  rw [check, if_neg (by simp [h.unrotated]), if_pos h.seen]

/-- An operation of the session itself. -/
def Operation.isOwn : Operation σ → Bool
  | .foreign _ => false
  | .check | .update _ => true

/-- **As long as nobody else changes the store**, every check passes and every change is made. -/
theorem Current.run {toHeader : σ → String} {store : σ} (h : s.Current (toHeader store))
    {ops : List (Operation σ)} (hown : ∀ op ∈ ops, op.isOwn) :
    ∀ report ∈ ((watch toHeader).run s store ops).2.2, report = some .unchanged := by
  -- What carries the induction is that the session has seen the header of the store.
  induction ops generalizing s store with
  | nil => exact nofun
  | cons op ops ih =>
    obtain ⟨hop, hops⟩ := List.forall_mem_cons.1 hown
    intro report hreport
    cases op with
    | foreign change => cases hop
    | check =>
      simp only [Watch.run, Watch.act, watch, h.check_eq, List.mem_cons] at hreport
      rcases hreport with rfl | hreport
      · rfl
      · exact ih h hops report hreport
    | update change =>
      obtain ⟨s', hcurrent, hupdate⟩ := update_of_not_refuses h.not_refuses change
      simp only [Watch.run, Watch.act, watch, hupdate, List.mem_cons, if_true] at hreport
      rcases hreport with rfl | hreport
      · rfl
      · exact ih hcurrent hops report hreport

/-- A change of a store that a session watches. -/
structure Gated (toHeader : σ → String) (s : Session) (store : σ) (change : σ → σ) : Prop where
  /-- One that is refused leaves the store as it is. -/
  refused : s.Refuses (toHeader store) →
    (s.update toHeader store change).1.rotated = true ∧
      (s.update toHeader store change).2 = (store, false)
  /-- Any other is made. -/
  made : ¬ s.Refuses (toHeader store) →
    (s.update toHeader store change).1.rotated = false ∧
      (s.update toHeader store change).2 = (change store, true)
  /-- Then no check fails and no change is refused until somebody else changes the store. -/
  later : ¬ s.Refuses (toHeader store) → ∀ ops : List (Operation σ), (∀ op ∈ ops, op.isOwn) →
    ∀ report ∈ ((watch toHeader).run (s.update toHeader store change).1
      (s.update toHeader store change).2.1 ops).2.2, report = some .unchanged

/-- **All or nothing**, whatever the session knows and whatever the store holds. -/
theorem gated_update (toHeader : σ → String) (s : Session) (store : σ) (change : σ → σ) :
    Gated toHeader s store change := by
  by_cases h : s.Refuses (toHeader store)
  · obtain ⟨s', hr, hupdate⟩ := update_of_refuses h change
    refine ⟨fun _ => ?_, fun hnot => absurd h hnot, fun hnot => absurd h hnot⟩
    rw [hupdate]
    exact ⟨hr, rfl⟩
  · obtain ⟨s', hcurrent, hupdate⟩ := update_of_not_refuses h change
    refine ⟨fun hyes => absurd hyes h, fun _ => ?_, fun _ ops hown => ?_⟩
    · rw [hupdate]
      exact ⟨hcurrent.unrotated, rfl⟩
    · rw [hupdate]
      exact hcurrent.run hown

end Session

/-! ## The lines of a message -/

/-- The texts among values, in their order. -/
inductive Texts : List Value → List String → Prop where
  | nil : Texts [] []
  | text {vs : List Value} {lines : List String} (line : String) (h : Texts vs lines) :
      Texts (.ofString line :: vs) (line :: lines)
  | other {vs : List Value} {lines : List String} (v : Value) (hv : ∀ line, v ≠ .ofString line)
      (h : Texts vs lines) : Texts (v :: vs) lines

/-- The cookie lines in the content of a message: the texts of an array, or one text. -/
inductive LinesOf : Value → List String → Prop where
  | array {vs : List Value} {lines : List String} (h : Texts vs lines) : LinesOf (.array vs) lines
  | single (line : String) : LinesOf (.ofString line) [line]

theorem string?_eq_some_iff {v : Value} {line : String} :
    v.string? = some line ↔ v = .ofString line := by
  constructor
  · intro h
    cases v with
    | text octets =>
      rw [Value.ofString, Utf8.encode_of_decode? h]
    | _ => cases h
  · rintro rfl
    exact Utf8.decode?_encode line

/-- **The texts are found** among any values. -/
theorem texts_iff {vs : List Value} {lines : List String} :
    Texts vs lines ↔ vs.filterMap Value.string? = lines := by
  constructor
  · intro h
    induction h with
    | nil => rfl
    | text line _ ih =>
      rw [List.filterMap_cons_some (string?_eq_some_iff.2 rfl), ih]
    | other v hv _ ih =>
      have hnone : v.string? = none :=
        Option.eq_none_iff_forall_ne_some.2 fun line h => hv line (string?_eq_some_iff.1 h)
      rw [List.filterMap_cons_none hnone, ih]
  · rintro rfl
    induction vs with
    | nil => exact .nil
    | cons v vs ih =>
      cases hstring : v.string? with
      | none =>
        rw [List.filterMap_cons_none hstring]
        refine .other v ?_ ih
        rintro line rfl
        rw [string?_eq_some_iff.2 rfl] at hstring
        cases hstring
      | some line =>
        rw [List.filterMap_cons_some hstring, string?_eq_some_iff.1 hstring]
        exact .text line ih

/-- **The lines are found in any content** whose texts are UTF-8. -/
theorem cookieLines?_eq_some_iff {content : Value} {lines : List String}
    (h : content.isTextual = true) : cookieLines? content = some lines ↔ LinesOf content lines := by
  cases content with
  | array vs =>
    rw [cookieLines?, Option.some_inj, ← texts_iff]
    constructor
    · exact .array
    · rintro ⟨h⟩
      exact h
  | text octets =>
    obtain ⟨line, hline⟩ := Option.isSome_iff_exists.1 (show (Utf8.decode? octets).isSome from h)
    rw [cookieLines?, hline, Option.some_inj]
    have hoctets : Value.text octets = .ofString line := string?_eq_some_iff.1 hline
    rw [hoctets]
    constructor
    · rintro rfl
      exact .single line
    · intro hlines
      generalize hv : Value.ofString line = v at hlines
      cases hlines with
      | array => cases hv
      | single line' =>
        have hsame := string?_eq_some_iff.2 hv
        rw [string?_eq_some_iff.2 rfl] at hsame
        cases hsame
        rfl
  | _ =>
    constructor
    · intro h
      cases h
    · intro h
      cases h

/-- A text that is read from a frame is UTF-8. -/
theorem isTextual_of_carries {version : UInt32} {b : Octets} {method : String} {content : Value}
    (h : CarriesMessage version b method content) : content.isTextual = true := by
  obtain ⟨frame, hd, hcontent, -⟩ := h
  obtain ⟨⟨header, rest⟩, -, rfl⟩ := Option.map_eq_some_iff.1 hd
  dsimp only at hcontent
  split at hcontent
  · rename_i hread
    cases hcontent
    exact ((Msgpack.yields_read _).taken hread).textual
  · cases hcontent

/-! ## The client -/

namespace Client

variable {c : Client} {e : Event}

/-- The session of a client has seen its cookies as they are. -/
def Abreast (c : Client) : Prop := c.session.Current c.jar.header

theorem Abreast.checkSession (h : c.Abreast) : c.checkSession = (c, .unchanged) := by
  rw [Client.checkSession, Session.Current.check_eq h]

theorem updateCookies_of_refuses (h : c.session.Refuses c.jar.header) (change : Jar → Jar) :
    ∃ session, session.rotated = true ∧ c.updateCookies change =
      ({ c with session := session }, .error (.sessionRotated session.cookieName)) := by
  obtain ⟨session, hr, hupdate⟩ := Session.update_of_refuses h change
  exact ⟨session, hr, by rw [updateCookies, hupdate]⟩

theorem updateCookies_of_not_refuses (h : ¬ c.session.Refuses c.jar.header)
    (change : Jar → Jar) :
    ∃ session : Session, session.Current (change c.jar).header ∧ c.updateCookies change =
      (note { c with session := session, jar := change c.jar } .cookiesChanged, .ok ()) := by
  obtain ⟨session, hcurrent, hupdate⟩ := Session.update_of_not_refuses h change
  exact ⟨session, hcurrent, by rw [updateCookies, hupdate]⟩

theorem Abreast.updateCookies (h : c.Abreast) (change : Jar → Jar) :
    (c.updateCookies change).1.Abreast := by
  obtain ⟨session, hcurrent, hupdate⟩ :=
    updateCookies_of_not_refuses (Session.Current.not_refuses h) change
  rw [hupdate]
  exact hcurrent

theorem Abreast.applyCookieMessage (h : c.Abreast) (content : Value) :
    (c.applyCookieMessage content).Abreast := by
  unfold Client.applyCookieMessage
  split
  · exact h.updateCookies _
  · exact h

/-- A frame reaches the cookies through a message at most. -/
theorem Abreast.receive (h : c.Abreast) (b : Octets) : (c.receive b).Abreast := by
  simp only [Client.receive]
  split
  · exact h
  · unfold answer
    split
    · exact h
    · exact h
  · unfold dispatch
    split
    · exact h
    · exact Abreast.applyCookieMessage (c := c.note (.received b)) h _
    · exact h

/-- What the loop does on its own changes no cookies, and its checks pass. -/
theorem Abreast.transition {c' : Client} (h : c.Abreast) (ht : Transition c e c')
    (he : e.isApplication = false) (hreceived : ∀ b, e ≠ .received b) : c'.Abreast := by
  have hpass {session : Session} {status : SessionStatus}
      (hs : c.session.check c.jar.header = (session, status)) :
      session = c.session ∧ status = .unchanged := by
    rw [Session.Current.check_eq h] at hs
    cases hs
    exact ⟨rfl, rfl⟩
  cases ht with
  | quiet e jar session handlers held new hnew hr hm hk =>
    obtain ⟨-, -, ⟨b, rfl⟩ | ⟨rfl, rfl⟩⟩ := hk he
    · exact absurd rfl (hreceived b)
    · exact h
  | numbered | reading => cases he
  | queuedDialled r rest session hl hi hc hs | redialled secs session hl hs =>
    obtain ⟨rfl, -⟩ := hpass hs
    exact h
  | queuedRotated r rest session hl hi hc hs | rotated secs session hl hs =>
    obtain ⟨-, hstatus⟩ := hpass hs
    cases hstatus
  | _ => exact h

/-- **No event but a foreign change** makes a later check fail. -/
theorem Abreast.step (h : c.Abreast) (he : ∀ change, e ≠ .foreign change) : (c.step e).Abreast := by
  rcases e.kinds with hplain | ⟨uri, body, response, rfl⟩ | ⟨method, id, rfl⟩ | ⟨change, rfl⟩ |
    ⟨change, rfl⟩ | hloop
  · obtain ⟨held, cancelled, calls, uploads, inbox, history, hstep⟩ := step_plain c hplain
    rw [hstep]
    exact h
  · have hsession : (c.step (.send uri body response)).session = c.session := by
      rw [send_session, Session.Current.check_eq h, ite_self]
    have hjar : (c.step (.send uri body response)).jar = c.jar := by
      obtain ⟨session, lastSeq, calls, uploads, hbegin⟩ := begin_eq c uri body response
      simp only [Client.step]
      split
      · rw [hbegin]
      · rfl
    unfold Abreast
    rw [hsession, hjar]
    exact h
  · simp only [Client.step]
    split
    · unfold register
      split
      · exact h
      · exact h
    · exact h
  · simp only [Client.step]
    split
    · exact h.updateCookies change
    · exact h
  · exact absurd rfl (he change)
  · by_cases hreceived : ∃ b, e = .received b
    · obtain ⟨b, rfl⟩ := hreceived
      simp only [Client.step]
      split
      · exact h.receive b
      · exact h
    · push Not at hreceived
      exact h.transition (step_transition c e) hloop hreceived

/-- **As long as nobody else changes the cookies**, every check of a run passes. -/
theorem Abreast.run (h : c.Abreast) {es : List Event}
    (hes : ∀ e ∈ es, ∀ change, e ≠ .foreign change) : (c.run es).Abreast := by
  induction es generalizing c with
  | nil => exact h
  | cons e es ih =>
    obtain ⟨he, hes⟩ := List.forall_mem_cons.1 hes
    rw [run_cons]
    exact ih (h.step he) hes

/-! ## All or nothing -/

/-- What an attempt to change its cookies makes of a client. -/
structure Attempted (c : Client) (change : Jar → Jar) (c' : Client) : Prop where
  /-- If it is refused, the session knows of a rotation, and nothing else is changed. -/
  refused : c.session.Refuses c.jar.header →
    ∃ session : Session, session.rotated = true ∧ c' = { c with session := session }
  /-- Otherwise the whole change is made. -/
  made : ¬ c.session.Refuses c.jar.header →
    ∃ session : Session, c' = { c with
      session := session
      jar := change c.jar
      history := .cookiesChanged :: c.history }
  /-- Then all later checks pass, up to a change by somebody else. -/
  later : ¬ c.session.Refuses c.jar.header →
    ∀ es : List Event, (∀ e ∈ es, ∀ change, e ≠ .foreign change) →
      (c'.run es).session.rotated = false ∧ (c'.run es).checkSession = (c'.run es, .unchanged)

theorem attempted_updateCookies (c : Client) (change : Jar → Jar) :
    Attempted c change (c.updateCookies change).1 := by
  by_cases h : c.session.Refuses c.jar.header
  · obtain ⟨session, hr, hupdate⟩ := updateCookies_of_refuses h change
    exact ⟨fun _ => ⟨session, hr, by rw [hupdate]⟩, fun hnot => absurd h hnot,
      fun hnot => absurd h hnot⟩
  · obtain ⟨session, hcurrent, hupdate⟩ := updateCookies_of_not_refuses h change
    refine ⟨fun hyes => absurd hyes h, fun _ => ⟨session, by rw [hupdate]; rfl⟩, fun _ es hes => ?_⟩
    have hnow : (c.updateCookies change).1.Abreast := by
      rw [hupdate]
      exact hcurrent
    have hthen := hnow.run hes
    exact ⟨Session.Current.unrotated hthen, hthen.checkSession⟩

/-- What becomes of changes that a client is asked to make to its cookies. -/
structure Gate (c : Client) : Prop where
  /-- A handle asks. -/
  attempted : ∀ change, Attempted c change (c.updateCookies change).1
  /-- It is told when the change is refused. -/
  error_iff : ∀ change, (c.updateCookies change).2 =
    .error (.sessionRotated c.session.cookieName) ↔ c.session.Refuses c.jar.header
  ok_iff : ∀ change, (c.updateCookies change).2 = .ok () ↔ ¬ c.session.Refuses c.jar.header
  /-- A message asks: its lines are applied in order. -/
  told : ∀ b connection content lines, c.link = .opened connection →
    CarriesMessage c.config.version b cookiesMethod content → LinesOf content lines →
    Attempted (c.note (.received b)) (fun jar => lines.foldl Jar.applyLine jar)
      (c.step (.received b))
  /-- One with other content asks for nothing. -/
  untold : ∀ b connection content, c.link = .opened connection →
    CarriesMessage c.config.version b cookiesMethod content → (∀ lines, ¬ LinesOf content lines) →
    c.step (.received b) = c.note (.received b)

/-- What a message does that is for the client itself. -/
theorem step_of_cookies_message (hh : c.handlers.lookup cookiesMethod = some .cookies) {b : Octets}
    {connection : Nat} {content : Value} (hl : c.link = .opened connection)
    (h : CarriesMessage c.config.version b cookiesMethod content) :
    c.step (.received b) = (c.note (.received b)).applyCookieMessage content := by
  simp only [Client.step, hl, receive_of_carries h, hh]
  rfl

theorem gate_of_handler (hh : c.handlers.lookup cookiesMethod = some .cookies) : Gate c where
  attempted := attempted_updateCookies c
  error_iff change := by
    by_cases h : c.session.Refuses c.jar.header
    · obtain ⟨session, -, hupdate⟩ := Session.update_of_refuses h change
      have hname : session.cookieName = c.session.cookieName := by
        have hkept := Session.cookieName_update c.session Jar.header c.jar change
        rwa [hupdate] at hkept
      simp [updateCookies, hupdate, hname, h]
    · obtain ⟨session, -, hupdate⟩ := updateCookies_of_not_refuses h change
      simp [hupdate, h]
  ok_iff change := by
    by_cases h : c.session.Refuses c.jar.header
    · obtain ⟨session, -, hupdate⟩ := updateCookies_of_refuses h change
      simp [hupdate, h]
    · obtain ⟨session, -, hupdate⟩ := updateCookies_of_not_refuses h change
      simp [hupdate, h]
  told b connection content lines hl hcarries hlines := by
    have hfound : cookieLines? content = some lines :=
      (cookieLines?_eq_some_iff (isTextual_of_carries hcarries)).2 hlines
    rw [step_of_cookies_message hh hl hcarries, applyCookieMessage, hfound]
    exact attempted_updateCookies _ _
  untold b connection content hl hcarries hnone := by
    have hnotFound : cookieLines? content = none :=
      Option.eq_none_iff_forall_ne_some.2 fun lines h =>
        hnone lines ((cookieLines?_eq_some_iff (isTextual_of_carries hcarries)).1 h)
    rw [step_of_cookies_message hh hl hcarries, applyCookieMessage, hnotFound]

/-- **Changes of the cookies are made as a whole or not at all**, and never look like a rotation:
for any session, any store and any change, and so for every reachable client, for what its handles
ask and for every message about cookies. -/
theorem cookies_gated {σ : Type} (toHeader : σ → String) (s : Session) (store : σ)
    (change : σ → σ) (config : Config) (session : Session) (jar : Jar) (events : List Event) :
    s.Gated toHeader store change ∧ Gate ((start config session jar).run events) := by
  refine ⟨Session.gated_update toHeader s store change, gate_of_handler ?_⟩
  rw [lookup_handlers]
  exact if_pos rfl

end Client

end Courier

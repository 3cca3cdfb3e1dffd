import Courier.Proofs.Conservation
import Courier.Proofs.Service
import Courier.Proofs.Session

/-!
# What an application does to a client

An application numbers requests, posts them or has them fail before they are posted, and asks for
other things. As long as no rotation is noticed and the loop runs, none of this depends on what
the loop does or on any connection.

* `desk`: what an application finds at a client.
* `Alike.application`: **clients that an application finds alike it leaves alike.**
* `Transition.alike`: the loop and the network change nothing that an application finds.
* `Alike.trails`: a session that missed checks still has only missed checks afterwards.
-/

namespace Courier.Client

variable {c c' d : Client} {e : Event} {es fs : List Event}

/-- What disturbs a client disturbs it for good. -/
theorem Transition.calm (h : Transition c e c') (hc : c'.Calm) : c.Calm := by
  obtain ⟨hrotated, hstopped, hcancelled⟩ := hc
  cases h with
  | quiet e jar session handlers held new hnew hr hm =>
    refine ⟨?_, hstopped, hcancelled⟩
    by_contra h
    simp [hr (by simpa using h)] at hrotated
  | numbered uri body response session r hs | reading uri body response session p hs
  | queuedDialled r rest session hl hi hc hs | redialled secs session hl hs =>
    exact ⟨Session.not_rotated_of_check hs, hstopped, hcancelled⟩
  | queuedRotated r rest session hl hi hc hs | rotated secs session hl hs =>
    simp [Session.rotated_of_check hs] at hrotated
  | cancelled seq => simp at hcancelled
  | halted => simp at hstopped
  | _ => exact ⟨hrotated, hstopped, hcancelled⟩

theorem calm_of_run (es : List Event) (h : (c.run es).Calm) : c.Calm := by
  induction es generalizing c with
  | nil => exact h
  | cons e es ih => exact (step_transition c e).calm (ih h)

/-! ## Alike clients -/

/-- What an application deals with: numbers, calls, files and handlers. -/
@[ext] structure Desk where
  config : Config
  handlers : List (String × Handler)
  held : Bool
  lastSeq : ReqSeq
  calls : List Request
  uploads : List PendingUpload

/-- What an application finds at a client. -/
def desk (c : Client) : Desk := ⟨c.config, c.handlers, c.held, c.lastSeq, c.calls, c.uploads⟩

/-- Two clients that an application finds alike: whatever it can do about requests and handlers is
the same at both. -/
def Alike (c d : Client) : Prop := d.desk = c.desk

theorem Alike.config_eq (h : Alike c d) : d.config = c.config := congrArg Desk.config h

theorem Alike.handlers_eq (h : Alike c d) : d.handlers = c.handlers := congrArg Desk.handlers h

theorem Alike.held_eq (h : Alike c d) : d.held = c.held := congrArg Desk.held h

theorem Alike.lastSeq_eq (h : Alike c d) : d.lastSeq = c.lastSeq := congrArg Desk.lastSeq h

theorem Alike.calls_eq (h : Alike c d) : d.calls = c.calls := congrArg Desk.calls h

theorem Alike.uploads_eq (h : Alike c d) : d.uploads = c.uploads := congrArg Desk.uploads h

/-- The clients `c` and `d` come to `c'` and `d'` together: they stay alike, and the same is
posted, fails and becomes of the cookies. -/
structure Together (c d c' d' : Client) : Prop where
  alike : Alike c' d'
  inbox : ∃ commands, c'.inbox = c.inbox ++ commands ∧ d'.inbox = d.inbox ++ commands
  outcomes : ∃ new, c'.outcomes = new ++ c.outcomes ∧ d'.outcomes = new ++ d.outcomes
  jar : d.jar = c.jar → d'.jar = c'.jar

/-- An event that meets a running client and lets it notice no rotation. -/
structure Smooth (c : Client) (e : Event) : Prop where
  running : c.stopped = false
  unrotated : (c.step e).session.rotated = false

/-- Numbers, calls and files at most change. -/
theorem Alike.together {d' : Client} (h : Alike c' d') (hic : c'.inbox = c.inbox)
    (hid : d'.inbox = d.inbox) (hoc : c'.outcomes = c.outcomes) (hod : d'.outcomes = d.outcomes)
    (hj : d.jar = c.jar → d'.jar = c'.jar) : Together c d c' d' :=
  ⟨h, ⟨[], by simpa using hic, by simpa using hid⟩, ⟨[], hoc, hod⟩, hj⟩

theorem Alike.accept (h : Alike c d) (uri : String) (content : Value) (upload : Option Upload)
    (response : ResponseType) :
    Alike (c.accept uri content upload response).1 (d.accept uri content upload response).1 := by
  have hcalls := h.calls_eq
  have huploads := h.uploads_eq
  have hseq := h.lastSeq_eq
  have hversion := congrArg Config.version h.config_eq
  unfold Client.accept
  cases upload with
  | none =>
    exact Desk.ext h.config_eq h.handlers_eq h.held_eq (by simp [desk, hseq])
      (by simp [desk, hcalls, hseq, hversion]) huploads
  | some u =>
    cases ha : u.attachment? with
    | some a =>
      simp only [ha]
      exact Desk.ext h.config_eq h.handlers_eq h.held_eq (by simp [desk, hseq])
        (by simp [desk, hcalls, hseq, hversion]) huploads
    | none =>
      simp only [ha]
      exact Desk.ext h.config_eq h.handlers_eq h.held_eq (by simp [desk, hseq]) hcalls
        (by simp [desk, huploads, hseq])

theorem accept_rest (c : Client) (uri : String) (content : Value) (upload : Option Upload)
    (response : ResponseType) :
    (c.accept uri content upload response).1.inbox = c.inbox ∧
      (c.accept uri content upload response).1.outcomes = c.outcomes ∧
      (c.accept uri content upload response).1.jar = c.jar ∧
      (c.accept uri content upload response).1.session = c.session := by
  rcases accept_eq c uri content upload response with ⟨r, -, h⟩ | ⟨p, -, h⟩ <;> rw [h] <;>
    exact ⟨rfl, rfl, rfl, rfl⟩

/-- A call that begins when no rotation is noticed. -/
theorem send_step {uri : String} {body : Body} {response : ResponseType} (hheld : c.held = true)
    (h : c.Smooth (.send uri body response)) :
    c.step (.send uri body response) = match prepare uri body with
      | .error _ => { c with session := (c.session.check c.jar.header).1 }
      | .ok (uri, content, upload) =>
        (accept { c with session := (c.session.check c.jar.header).1 } uri content upload
          response).1 := by
  obtain ⟨hrunning, hrotated⟩ := h
  simp only [step, hheld, if_true, begin, checkSession] at hrotated ⊢
  cases hcheck : c.session.check c.jar.header with
  | mk session status =>
  cases status with
  | rotated =>
    simp only [hcheck] at hrotated
    simp [Session.rotated_of_check hcheck] at hrotated
  | unchanged =>
    simp only [hrunning]
    cases prepare uri body <;> rfl

theorem Alike.send (h : Alike c d) {uri : String} {body : Body} {response : ResponseType}
    (hc : c.Smooth (.send uri body response)) (hd : d.Smooth (.send uri body response)) :
    Together c d (c.step (.send uri body response)) (d.step (.send uri body response)) := by
  have hheld := h.held_eq
  by_cases hheldc : c.held = true
  · rw [send_step hheldc hc, send_step (hheld.trans hheldc) hd]
    -- What the sessions look like does not matter to what is sent.
    have hchecked : Alike { c with session := (c.session.check c.jar.header).1 }
        { d with session := (d.session.check d.jar.header).1 } := h
    cases prepare uri body with
    | error e => exact hchecked.together rfl rfl rfl rfl id
    | ok request =>
      obtain ⟨uri', content, upload⟩ := request
      obtain ⟨hic, hoc, hjc, -⟩ := accept_rest
        { c with session := (c.session.check c.jar.header).1 } uri' content upload response
      obtain ⟨hid, hod, hjd, -⟩ := accept_rest
        { d with session := (d.session.check d.jar.header).1 } uri' content upload response
      exact (hchecked.accept uri' content upload response).together hic hid hoc hod
        fun hj => hjd.trans (hj.trans hjc.symm)
  · have hheldd : ¬ d.held = true := hheld ▸ hheldc
    simp only [step, if_neg hheldc, if_neg hheldd]
    exact h.together rfl rfl rfl rfl id

theorem session_updateCookies (c : Client) (change : Jar → Jar) :
    (c.updateCookies change).1.session = (c.session.update Jar.header c.jar change).1 := by
  simp only [updateCookies]
  rcases c.session.update Jar.header c.jar change with ⟨session, jar, _ | _⟩ <;> rfl

/-- A change of the cookies after which no rotation is known. -/
theorem updateCookies_of_unrotated {change : Jar → Jar}
    (h : (c.updateCookies change).1.session.rotated = false) :
    (c.updateCookies change).1 = note { c with
      session := (c.session.update Jar.header c.jar change).1
      jar := change c.jar } .cookiesChanged := by
  rw [session_updateCookies] at h
  rw [updateCookies, (Session.update_of_unrotated h).1]

/-- A command that is posted at both. -/
theorem Alike.post (h : Alike c d) (hc : c.stopped = false) (hd : d.stopped = false)
    (command : Command) : Together c d (c.post command) (d.post command) := by
  simp only [Client.post, hc, hd]
  exact ⟨h, ⟨[command], rfl, rfl⟩, ⟨[], rfl, rfl⟩, id⟩

theorem finish_step {seq : ReqSeq} {r : Request} (hs : c.stopped = false)
    (hf : (c.calls.find? fun q => q.seq = seq) = some r) :
    c.step (.finish seq) =
      post { c with calls := c.calls.eraseP fun q => q.seq = r.seq } (.enqueue r) := by
  have hrunning : ¬ c.stopped = true := by simp [hs]
  simp only [step, hf, finish, if_neg hrunning]

theorem uploadRead_step {seq : ReqSeq} {p : PendingUpload} (octets : Octets)
    (hs : c.stopped = false) (hf : (c.uploads.find? fun q => q.seq = seq) = some p) :
    c.step (.uploadRead seq (.ok octets)) =
      post { c with uploads := c.uploads.eraseP fun q => q.seq = seq } (.enqueue ⟨seq,
        requestFrame c.config.version seq p.uri p.content (some ⟨p.upload.name, octets⟩),
        p.response⟩) := by
  have hrunning : ¬ c.stopped = true := by simp [hs]
  simp only [step, uploadRead, hf, if_neg hrunning]

/-- A call that posts its request. -/
theorem Alike.finish (h : Alike c d) (hc : c.stopped = false) (hd : d.stopped = false)
    (seq : ReqSeq) : Together c d (c.step (.finish seq)) (d.step (.finish seq)) := by
  cases hf : c.calls.find? fun r => r.seq = seq with
  | none =>
    simp only [step, h.calls_eq, hf]
    exact h.together rfl rfl rfl rfl id
  | some r =>
    have hfd : (d.calls.find? fun r => r.seq = seq) = some r := by rw [h.calls_eq, hf]
    rw [finish_step hc hf, finish_step hd hfd]
    have hrest : Alike { c with calls := c.calls.eraseP fun q => q.seq = r.seq }
        { d with calls := d.calls.eraseP fun q => q.seq = r.seq } :=
      Desk.ext h.config_eq h.handlers_eq h.held_eq h.lastSeq_eq
        (congrArg (List.eraseP _) h.calls_eq) h.uploads_eq
    obtain ⟨halike, hinbox, houtcomes, hjar⟩ := hrest.post hc hd (.enqueue r)
    exact ⟨halike, hinbox, houtcomes, hjar⟩

/-- A file that was read, or could not be. -/
theorem Alike.uploadRead (h : Alike c d) (hc : c.stopped = false) (hd : d.stopped = false)
    (seq : ReqSeq) (result : Except FileFault Octets) :
    Together c d (c.step (.uploadRead seq result)) (d.step (.uploadRead seq result)) := by
  cases hf : c.uploads.find? fun p => p.seq = seq with
  | none =>
    simp only [step, Client.uploadRead, h.uploads_eq, hf]
    exact h.together rfl rfl rfl rfl id
  | some p =>
    have hfd : (d.uploads.find? fun p => p.seq = seq) = some p := by rw [h.uploads_eq, hf]
    have hrest : Alike { c with uploads := c.uploads.eraseP fun p => p.seq = seq }
        { d with uploads := d.uploads.eraseP fun p => p.seq = seq } :=
      Desk.ext h.config_eq h.handlers_eq h.held_eq h.lastSeq_eq h.calls_eq
        (congrArg (List.eraseP _) h.uploads_eq)
    cases result with
    | error fault =>
      simp only [step, Client.uploadRead, hf, hfd]
      exact ⟨hrest, ⟨[], by simp [settle, note], by simp [settle, note]⟩,
        ⟨[(seq, .error (.file fault))], rfl, rfl⟩, id⟩
    | ok octets =>
      rw [uploadRead_step octets hc hf, uploadRead_step octets hd hfd,
        congrArg Config.version h.config_eq]
      obtain ⟨halike, hinbox, houtcomes, hjar⟩ := hrest.post hc hd
        (.enqueue ⟨seq, requestFrame c.config.version seq p.uri p.content
          (some ⟨p.upload.name, octets⟩), p.response⟩)
      exact ⟨halike, hinbox, houtcomes, hjar⟩

/-- **Clients that an application finds alike it leaves alike.** -/
theorem Alike.application (h : Alike c d) (he : e.isApplication = true) (hc : c.Smooth e)
    (hd : d.Smooth e) : Together c d (c.step e) (d.step e) := by
  have hheld := h.held_eq
  cases e with
  | send uri body response => exact h.send hc hd
  | finish seq => exact h.finish hc.running hd.running seq
  | cancel seq => exact Alike.together h rfl rfl rfl rfl id
  | register method id =>
    by_cases hh : c.held = true
    · simp only [step, if_pos hh, if_pos (hheld.trans hh), register, h.handlers_eq]
      split
      · exact h.together rfl rfl rfl rfl fun hj => hj
      · exact Alike.together (Desk.ext h.config_eq rfl hheld h.lastSeq_eq h.calls_eq h.uploads_eq)
          rfl rfl rfl rfl fun hj => hj
    · simp only [step, if_neg hh, if_neg (hheld ▸ hh)]
      exact h.together rfl rfl rfl rfl fun hj => hj
  | updateCookies change =>
    have hrc := hc.unrotated
    have hrd := hd.unrotated
    simp only [step] at hrc hrd ⊢
    rw [hheld] at hrd ⊢
    by_cases hh : c.held = true
    · rw [if_pos hh] at hrc hrd ⊢
      rw [if_pos hh, updateCookies_of_unrotated hrc, updateCookies_of_unrotated hrd]
      exact Alike.together h rfl rfl rfl rfl (congrArg change)
    · rw [if_neg hh, if_neg hh]
      exact h.together rfl rfl rfl rfl id
  | foreign change => exact Alike.together h rfl rfl rfl rfl (congrArg change)
  | clear | query | shutdown =>
    simp only [step]
    rw [hheld]
    split
    · exact h.post hc.running hd.running _
    · exact h.together rfl rfl rfl rfl id
  | release =>
    exact Alike.together
      (Desk.ext h.config_eq h.handlers_eq rfl h.lastSeq_eq h.calls_eq h.uploads_eq)
      rfl rfl rfl rfl id
  | uploadRead seq result => exact h.uploadRead hc.running hd.running seq result
  | _ => cases he

/-- Alike clients give the same number. -/
theorem Alike.allocates_eq (h : Alike c d) (h' : Alike (c.step e) (d.step e)) :
    d.allocates e = c.allocates e := by
  have hnext : ∀ n : ReqSeq, ReqSeq.next n ≠ n := by
    intro n hn
    simp [ReqSeq.next] at hn
  have hseq := h.lastSeq_eq
  have hseq' := h'.lastSeq_eq
  rcases (step_transition c e).allocates_cases with ⟨hc, hlc⟩ | ⟨hc, hlc⟩ <;>
    rcases (step_transition d e).allocates_cases with ⟨hd, hld⟩ | ⟨hd, hld⟩ <;>
    rw [hlc, hld, hseq] at hseq'
  · rw [hc, hd]
  · exact absurd hseq' (hnext _)
  · exact absurd hseq'.symm (hnext _)
  · rw [hc, hd, hseq]

/-- The application does not end the loop itself. -/
theorem Transition.stopped_eq (h : Transition c e c') (he : e.isApplication = true) :
    c'.stopped = c.stopped := by
  cases h with
  | halted e rest hb hhalts => cases hhalts <;> cases he
  | _ => rfl

theorem receives_of_application (he : e.isApplication = true) : c.receives e = none := by
  cases e with
  | command => cases he
  | _ => rfl

/-! ## Events of the loop and of the network -/

/-- **The loop and the network change nothing that an application finds.** -/
theorem Transition.alike (h : Transition c e c') (he : e.isApplication = false) : Alike c c' := by
  cases h with
  | quiet e jar session handlers held new hnew hr hm hk =>
    obtain ⟨rfl, rfl, -⟩ := hk he
    rfl
  | numbered | reading | posted | forsaken | cancelled | readPosted | readFailed => cases he
  | _ => rfl

theorem allocates_of_loop (he : e.isApplication = false) : c.allocates e = none := by
  cases e with
  | send => cases he
  | _ => rfl

/-- **The loop receives what was posted, in its order.** -/
theorem Transition.receives_append (h : Transition c e c') (he : e.isApplication = false)
    (hs : c'.stopped = false) :
    (c.receives e).toList ++ requestsOf c'.inbox = requestsOf c.inbox := by
  have hnone : c.takes e = none → c.receives e = none := fun ht => by simp [receives, ht]
  cases h with
  | quiet e jar session handlers held new hnew hr hm hk => simp [hnone hm.takes]
  | numbered | reading | posted | forsaken | cancelled | readPosted | readFailed => cases he
  | asked e command hc hs hm ha => simp [he] at ha
  | dropped r rest hb hi hc => simp [receives, takes, hb, hi]
  | queuedOpen r rest connection hl hi hc => simp [receives, takes, Link.isBusy, hl, hi]
  | queuedLater r rest hl hi hc =>
    have hb : c.link.isBusy = false := by rcases hl with ⟨_, hl⟩ | ⟨_, hl⟩ <;> rw [hl] <;> rfl
    simp [receives, takes, hb, hi]
  | queuedDialled r rest session hl hi hc hcheck | queuedRotated r rest session hl hi hc hcheck =>
    simp [receives, takes, Link.isBusy, hl, hi]
  | cleared rest hb hi => simp [receives, takes, hb, hi]
  | queried rest stats hb hi => simp [receives, takes, hb, hi]
  | halted e rest hb he => simp at hs
  | ended e clean he => cases he <;> simp [hnone rfl]
  | _ => simp [hnone rfl]

/-! ## Sessions -/

theorem send_session (uri : String) (body : Body) (response : ResponseType) :
    (c.step (.send uri body response)).session =
      if c.held then (c.session.check c.jar.header).1 else c.session := by
  simp only [step]
  split
  · simp only [begin, checkSession]
    cases hcheck : c.session.check c.jar.header with
    | mk session status =>
    cases status with
    | rotated => rfl
    | unchanged =>
      simp only
      split
      · rfl
      · cases prepare uri body with
        | error e => rfl
        | ok request =>
          exact (accept_rest { c with session := session } request.1 request.2.1 request.2.2
            response).2.2.2
  · rfl

theorem updateCookies_session (change : Jar → Jar) :
    (c.step (.updateCookies change)).session =
      if c.held then (c.session.update Jar.header c.jar change).1 else c.session := by
  simp only [step]
  split
  · exact session_updateCookies c change
  · rfl

/-- What becomes of the session at an event of the application. -/
def sessionAfter (c : Client) : Event → Session
  | .send _ _ _ => if c.held then (c.session.check c.jar.header).1 else c.session
  | .updateCookies change =>
    if c.held then (c.session.update Jar.header c.jar change).1 else c.session
  | _ => c.session

theorem sessionAfter_of_plain (he : e.isPlain = true) : c.sessionAfter e = c.session := by
  cases e with
  | send | updateCookies => cases he
  | _ => rfl

/-- Only a call and a change of the cookies look at the session. -/
theorem application_session (he : e.isApplication = true) :
    (c.step e).session = c.sessionAfter e := by
  rcases e.kinds with hplain | ⟨uri, body, response, rfl⟩ | ⟨method, id, rfl⟩ | ⟨change, rfl⟩ |
    ⟨change, rfl⟩ | hloop
  · obtain ⟨held, cancelled, calls, uploads, inbox, history, hstep⟩ := step_plain c hplain
    rw [hstep, sessionAfter_of_plain hplain]
  · exact send_session uri body response
  · simp only [step, register, sessionAfter]
    split
    · split <;> rfl
    · rfl
  · exact updateCookies_session change
  · rfl
  · rw [hloop] at he
    cases he

/-- A session that trails another one trails it after any event of the application. -/
theorem Alike.trails (h : Alike c d) (hj : d.jar = c.jar) (ht : d.session.Trails c.session)
    (he : e.isApplication = true) (hc : (c.step e).session.rotated = false) :
    (d.step e).session.Trails (c.step e).session := by
  rw [application_session he] at hc ⊢
  rw [application_session he]
  unfold sessionAfter at hc ⊢
  rw [h.held_eq, hj]
  cases e with
  | send uri body response =>
    simp only at hc ⊢
    split at hc
    · obtain ⟨hchecked, hpassed⟩ := ht.check hc
      simp only [*, if_true]
      exact ht.snapshot _
    · simp only [*]
      exact ht
  | updateCookies change =>
    simp only at hc ⊢
    split at hc
    · simp only [*, if_true]
      exact ht.update hc
    · simp only [*]
      exact ht
  | _ => exact ht

end Courier.Client

import Courier.Proofs.Provenance

/-!
# Numbers without gaps

A call is given its number only when nothing can be wrong with it any more. So a call that is
skipped or refused leaves nothing behind but a look at the cookies, and the numbers of the calls
that are accepted have no gaps, however calls overlap.

* `returns_send`: what a call returns, and what it leaves behind.
* `along_handsOut_perm`: while the loop runs, each number that was given is handed out, or its call
  is still under way.
* `numbers_gapless`: **no trace and no gap.**
-/

namespace Courier.Client

variable {c c' : Client} {e : Event} {es : List Event} {uri : String} {body : Body}
  {response : ResponseType}

/-! ## Calls that come to nothing -/

/-- The client after a look at the cookies. -/
def looked (c : Client) : Client := { c with session := (c.session.check c.jar.header).1 }

/-- What a call returns, and the client that it leaves behind. -/
inductive Returns (c : Client) (uri : String) (body : Body) :
    Client × Except Error (Option ReqSeq) → Prop where
  /-- The session was rotated: the reply has no number. -/
  | skipped (hs : (c.session.check c.jar.header).2 = .rotated) :
      Returns c uri body (c.looked, .ok none)
  /-- The loop has ended already. -/
  | closed (hstopped : c.stopped = true) : Returns c uri body (c.looked, .error .connectionClosed)
  | address (fault : Utf8.Fault) (huri : Percent.decode uri = .error fault) :
      Returns c uri body (c.looked, .error (.invalidArgument (.uri uri fault)))
  | upload (fault : UploadFault) (hbody : body.split = .error fault) :
      Returns c uri body (c.looked, .error (.invalidUpload fault))
  /-- Nothing is wrong with it: it has the next number. -/
  | accepted (c' : Client) (hs : (c.session.check c.jar.header).2 = .unchanged)
      (hrunning : c.stopped = false) (hnext : c'.lastSeq = ReqSeq.next c.lastSeq) :
      Returns c uri body (c', .ok (some (ReqSeq.next c.lastSeq)))

theorem prepare_eq_error {error : Error} (h : prepare uri body = .error error) :
    (∃ fault, Percent.decode uri = .error fault ∧ error = .invalidArgument (.uri uri fault)) ∨
      ∃ fault, body.split = .error fault ∧ error = .invalidUpload fault := by
  unfold prepare at h
  cases huri : Percent.decode uri with
  | error fault =>
    simp only [huri, Except.error.injEq] at h
    exact .inl ⟨fault, rfl, h.symm⟩
  | ok address =>
    cases hbody : body.split with
    | error fault =>
      simp only [huri, hbody, Except.error.injEq] at h
      exact .inr ⟨fault, rfl, h.symm⟩
    | ok s => simp [huri, hbody] at h

/-- **A call returns in one of five ways**, and all but the last leave no trace. -/
theorem returns_send (c : Client) (uri : String) (body : Body) (response : ResponseType) :
    Returns c uri body (c.send uri body response) := by
  cases hcheck : c.session.check c.jar.header with
  | mk session status =>
  have hlooked : c.looked = { c with session := session } := by rw [looked, hcheck]
  cases status with
  | rotated =>
    have hsend : c.send uri body response = (c.looked, .ok none) := by
      simp only [send, begin, checkSession, hcheck, hlooked]
    exact hsend ▸ .skipped (by rw [hcheck])
  | unchanged =>
    have hs : (c.session.check c.jar.header).2 = .unchanged := by rw [hcheck]
    cases hstopped : c.stopped with
    | true =>
      have hsend : c.send uri body response = (c.looked, .error .connectionClosed) := by
        simp only [send, begin, checkSession, hcheck, hlooked, hstopped, if_true]
      exact hsend ▸ .closed hstopped
    | false =>
      cases hp : prepare uri body with
      | error error =>
        have hsend : c.send uri body response = (c.looked, .error error) := by
          simp only [send, begin, checkSession, hcheck, hlooked, hstopped, hp, Bool.false_eq_true,
            if_false]
        rcases prepare_eq_error hp with ⟨fault, huri, rfl⟩ | ⟨fault, hbody, rfl⟩
        · exact hsend ▸ .address fault huri
        · exact hsend ▸ .upload fault hbody
      | ok request =>
        obtain ⟨address, content, upload⟩ := request
        have hbegin := begin_of_prepare hcheck hstopped hp response
        rcases accept_eq { c with session := session } address content upload response with
          ⟨r, hr, hacc⟩ | ⟨p, hseq, hacc⟩ <;> rw [hacc] at hbegin
        · -- The loop still runs, so that the request is posted.
          simp only [send, hbegin, finish, hstopped, Bool.false_eq_true, if_false, hr]
          exact .accepted _ hs hstopped (by rw [post_eq])
        · simp only [send, hbegin, hseq]
          exact .accepted _ hs hstopped rfl

/-- **A call that overlaps with other things** leaves no trace either, unless it gets a number. -/
theorem step_of_not_allocates (hheld : c.held = true)
    (h : c.allocates (.send uri body response) = none) :
    c.step (.send uri body response) = c.looked := by
  have hsession := send_session (c := c) uri body response
  simp only [allocates, step, hheld, if_true] at h hsession ⊢
  rcases begin_cases c uri body response with
    ⟨session, result, hb, -⟩ | ⟨session, address, content, upload, -, -, -, hb⟩
  · -- A call without a number changes the session alone, and what it makes of that is a look.
    rw [hb] at hsession ⊢
    simp only [looked, ← hsession]
  · rcases accept_eq { c with session := session } address content upload response with
      ⟨r, -, hacc⟩ | ⟨p, -, hacc⟩ <;> simp [hb, hacc] at h

/-! ## Numbers -/

/-- While the loop runs, no call forgets its number. -/
theorem calling_add_count (hs : (c.run es).stopped = false) (n : ReqSeq) :
    (c.run es).calling n + (c.along handsOut es).count n =
      c.calling n + (c.along allocates es).count n := by
  induction es generalizing c with
  | nil => simp [along]
  | cons e es ih =>
    have hstep := (step_transition c e).calling_cases n
    have hrest := ih (c := c.step e) hs
    -- A call whose number is lost has found the loop ended, and it still runs at the end.
    have hrunning : c.stopped = false := running_of_run (e :: es) hs
    simp only [run_cons, along, List.count_append, hrunning, Bool.false_eq_true, false_and,
      or_false] at hstep hrest ⊢
    omega

/-- **While the loop runs, each number that was given is handed out**, or its call is still under
way. -/
theorem along_handsOut_perm (config : Config) (session : Session) (jar : Jar) (es : List Event)
    (hs : ((start config session jar).run es).stopped = false) :
    ((start config session jar).along handsOut es ++
        ((start config session jar).run es).calls.map (·.seq)).Perm
      ((start config session jar).along allocates es) := by
  refine List.perm_iff_count.2 fun n => ?_
  have hcount := calling_add_count hs n
  have hnone : (start config session jar).calling n = 0 := rfl
  rw [List.count_append, ← calling]
  omega

/-- The numbers of the calls that were accepted, in the order in which they were given. -/
def accepted (c : Client) (es : List Event) : List ReqSeq :=
  (c.along allocates es).filter fun n => n ∈ c.along handsOut es

/-- The numbers of a run have no gap. -/
structure Gapless (c : Client) (es : List Event) : Prop where
  /-- They are given one after the other. -/
  given : (c.along allocates es).map UInt64.toNat =
    List.range' 1 (c.along allocates es).length
  /-- Each is that of a call that was accepted, or of one that is still under way. -/
  handed : (c.along handsOut es ++ (c.run es).calls.map (·.seq)).Perm (c.along allocates es)
  /-- Once all calls have returned, those that were accepted are numbered from one on. -/
  accepted : (c.run es).calls = [] →
    (c.accepted es).map UInt64.toNat = List.range' 1 (c.along handsOut es).length

theorem gapless_run (config : Config) (session : Session) (jar : Jar) (es : List Event)
    (hfew : ((start config session jar).along allocates es).length < 2 ^ 64 - 1)
    (hs : ((start config session jar).run es).stopped = false) :
    Gapless (start config session jar) es := by
  have hlt : (start config session jar).lastSeq.toNat +
      ((start config session jar).along allocates es).length < 2 ^ 64 := by
    show 0 + _ < _
    omega
  have hgiven := along_allocates hlt
  have hhanded := along_handsOut_perm config session jar es hs
  refine ⟨hgiven, hhanded, fun hcalls => ?_⟩
  rw [hcalls, List.map_nil, List.append_nil] at hhanded
  have hall : (start config session jar).accepted es =
      (start config session jar).along allocates es :=
    List.filter_eq_self.2 fun n hn => by simpa using hhanded.mem_iff.2 hn
  rw [hall, hhanded.length_eq]
  exact hgiven

/-- **No trace and no gap.** A call that is skipped or refused leaves nothing behind but a look at
the cookies, wherever the client stands. So in a run that gives fewer than `2 ^ 64 - 1` numbers, the
calls that are accepted while the loop runs are numbered from one on, however they overlap. -/
theorem numbers_gapless :
    (∀ c uri body response, Returns c uri body (c.send uri body response) ∧
      (c.held = true → c.allocates (.send uri body response) = none →
        c.step (.send uri body response) = c.looked)) ∧
    ∀ config session jar events,
      ((start config session jar).along allocates events).length < 2 ^ 64 - 1 →
      ((start config session jar).run events).stopped = false →
      Gapless (start config session jar) events :=
  ⟨fun c uri body response => ⟨returns_send c uri body response, step_of_not_allocates⟩,
    gapless_run⟩

/-- Calls that overlap: the first is the last to post its request, a file on disk is read meanwhile,
and others send what cannot be sent or come after a rotation. -/
def overlapping : List Event :=
  [.send "/a" .empty .raw, .send "/%ff" .empty .raw,
    .send "/b" (.form [("upload", .file ⟨"x", .disk "x"⟩)]) .raw,
    .send "/c" (.form [("file", .file ⟨"x", .disk "x"⟩)]) .json, .send "/d" (.json .null) .json,
    .finish 3, .command, .finish 1, .foreign (·.insert "sid" "1"), .send "/e" .empty .raw,
    .finish 4, .foreign (·.insert "sid" "2"), .send "/f" .empty .raw]

theorem numbers_gapless_overlapping :
    fresh.along handsOut overlapping = [2, 3, 1, 4] ∧ fresh.accepted overlapping = [1, 2, 3, 4] ∧
      (fresh.run overlapping).session.rotated = true ∧
      Gapless fresh overlapping ∧
      fresh.step (.send "/%ff" .empty .raw) = fresh.looked := by
  have hfew : (fresh.along allocates overlapping).length < 2 ^ 64 - 1 :=
    Nat.lt_of_le_of_lt (along_length_le _ _) (by decide)
  have hrunning : (fresh.run overlapping).stopped = false := by decide +kernel
  have hgapless := numbers_gapless.2 .standard (.new "sid") .empty overlapping hfew hrunning
  have hrefused : fresh.allocates (.send "/%ff" .empty .raw) = none := by decide +kernel
  exact ⟨by decide +kernel, by decide +kernel, by decide +kernel, hgapless,
    (numbers_gapless.1 fresh "/%ff" .empty .raw).2 rfl hrefused⟩

end Courier.Client

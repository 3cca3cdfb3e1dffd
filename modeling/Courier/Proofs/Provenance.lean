import Courier.Proofs.Asking
import Courier.Proofs.Continuity
import Courier.Proofs.Fate

/-!
# Where requests come from

Every request that reaches the loop was asked for by a call, at a known place of the run, and it is
what that call asked for. Numbers are given in turn, so that the number of a request tells the call;
and a file is read once, so that a call makes one request at most.

* `along_allocates`: **the numbers of a run are consecutive.**
* `Origin`, `origin_of_received`: **a request that reaches the loop has an origin.**
-/

namespace Courier

/-- Whether an event brings a request closer to the loop. -/
def Event.forwards : Event → Bool
  | .send _ _ _ | .finish _ | .uploadRead _ _ => true
  | _ => false

namespace Client

variable {c c' : Client} {e : Event} {es events : List Event} {n : ReqSeq} {config : Config}
  {session : Session} {jar : Jar} {uri : String} {body : Body} {response : ResponseType}

/-! ## Numbers -/

/-- **The numbers of a run are consecutive**, as long as they last. -/
theorem along_allocates
    (hlt : c.lastSeq.toNat + (c.along allocates es).length < 2 ^ 64) :
    (c.along allocates es).map UInt64.toNat =
      List.range' (c.lastSeq.toNat + 1) (c.along allocates es).length := by
  induction es generalizing c with
  | nil => rfl
  | cons e es ih =>
    rcases (step_transition c e).allocates_cases with ⟨hn, hl⟩ | ⟨hn, hl⟩
    · simp only [along, hn, Option.toList_none, List.nil_append] at hlt ⊢
      rw [ih (by rw [hl]; exact hlt), hl]
    · simp only [along, hn, Option.toList_some, List.singleton_append, List.length_cons,
        List.map_cons] at hlt ⊢
      have hnext : (ReqSeq.next c.lastSeq).toNat = c.lastSeq.toNat + 1 := by
        simp only [ReqSeq.next, UInt64.toNat_add, UInt64.toNat_one]
        omega
      rw [ih (by rw [hl, hnext]; omega), hl, hnext, List.range'_succ]

/-- No number is given twice. -/
theorem allocates_nodup (hlt : ((start config session jar).along allocates es).length < 2 ^ 64) :
    ((start config session jar).along allocates es).Nodup := by
  have hlt' : (start config session jar).lastSeq.toNat +
      ((start config session jar).along allocates es).length < 2 ^ 64 := by
    show 0 + _ < _
    omega
  exact .of_map _ (along_allocates hlt' ▸ List.nodup_range')

/-- What happens once along a run does not happen again. -/
theorem along_not_again {α : Type} {f : Client → Event → Option α} {a : α}
    {before mid after : List Event} {e e' : Event}
    (hnd : (c.along f (before ++ e :: (mid ++ e' :: after))).Nodup)
    (ha : f (c.run before) e = some a) : f (c.run (before ++ e :: mid)) e' ≠ some a := by
  intro ha'
  rw [run_append, run_cons] at ha'
  rw [along_append, along, along_append, along, ha, ha'] at hnd
  simp [List.nodup_append] at hnd

/-- What happens once along a run happens at one place. -/
theorem along_unique {α : Type} {f : Client → Event → Option α} {a : α}
    (hnd : (c.along f events).Nodup) {before before' after after' : List Event} {e e' : Event}
    (h : events = before ++ e :: after) (h' : events = before' ++ e' :: after')
    (ha : f (c.run before) e = some a) (ha' : f (c.run before') e' = some a) :
    before' = before ∧ e' = e ∧ after' = after := by
  rcases List.append_eq_append_iff.1 (h.symm.trans h') with ⟨gap, rfl, hgap⟩ | ⟨gap, rfl, hgap⟩
  · cases gap with
    | nil => simp_all
    | cons g gap =>
      obtain ⟨rfl, rfl⟩ := List.cons.inj hgap
      exact absurd ha' (along_not_again (h ▸ hnd) ha)
  · cases gap with
    | nil => simp_all
    | cons g gap =>
      obtain ⟨rfl, rfl⟩ := List.cons.inj hgap
      exact absurd ha (along_not_again (h' ▸ hnd) ha')

/-! ## Files -/

/-- What comes of a file that is being read. -/
def reads (c : Client) : Event → Option (ReqSeq × Except FileFault Octets)
  | .uploadRead seq result => if seq ∈ c.numbersAt .reading then some (seq, result) else none
  | _ => none

theorem reads_eq_some_iff {result : Except FileFault Octets} :
    c.reads e = some (n, result) ↔ e = .uploadRead n result ∧ n ∈ c.numbersAt .reading := by
  cases e with
  | uploadRead seq r =>
    simp only [reads, Option.ite_none_right_eq_some, Option.some.injEq, Prod.mk.injEq,
      Event.uploadRead.injEq]
    constructor
    · rintro ⟨h, rfl, rfl⟩
      exact ⟨⟨rfl, rfl⟩, h⟩
    · rintro ⟨⟨rfl, rfl⟩, h⟩
      exact ⟨h, rfl, rfl⟩
  | _ => simp [reads]

/-- A number whose file is being read has an upload. -/
theorem find?_of_reading (h : n ∈ c.numbersAt .reading) :
    ∃ p ∈ c.uploads, p.seq = n ∧ c.uploads.find? (fun p => p.seq = n) = some p := by
  obtain ⟨q, hq, hseq⟩ := List.mem_map.1 h
  cases hf : c.uploads.find? fun p => p.seq = n with
  | none => exact absurd hseq (by simpa using List.find?_eq_none.1 hf q hq)
  | some p => exact ⟨p, List.mem_of_find?_eq_some hf, by simpa using List.find?_some hf, rfl⟩

theorem find?_of_not_reading (h : n ∉ c.numbersAt .reading) :
    c.uploads.find? (fun p => p.seq = n) = none :=
  List.find?_eq_none.2 fun p hp heq => h (List.mem_map.2 ⟨p, hp, by simpa using heq⟩)

/-- What was not being read changes nothing. -/
theorem uploadRead_of_not_reading (h : n ∉ c.numbersAt .reading)
    (result : Except FileFault Octets) : c.uploadRead n result = c := by
  simp only [uploadRead, find?_of_not_reading h]

/-- **A file that cannot be read** settles its request, and nothing else happens. -/
theorem uploadRead_error (h : n ∈ c.numbersAt .reading) (fault : FileFault) :
    c.uploadRead n (.error fault) = settle
      { c with uploads := c.uploads.eraseP fun p => p.seq = n } n (.error (.file fault)) := by
  obtain ⟨p, -, -, hf⟩ := find?_of_reading h
  simp only [uploadRead, hf]

/-- **A file that was read** completes its request, which is posted as long as the loop runs. -/
theorem uploadRead_ok {p : PendingUpload}
    (hf : c.uploads.find? (fun p => p.seq = n) = some p) (octets : Octets) :
    c.uploadRead n (.ok octets) =
      if c.stopped then settle { c with uploads := c.uploads.eraseP fun p => p.seq = n } n
        (.error .connectionClosed)
      else post { c with uploads := c.uploads.eraseP fun p => p.seq = n }
        (.enqueue (p.request c.config.version octets)) := by
  have hseq : p.seq = n := by simpa using List.find?_some hf
  subst hseq
  simp only [uploadRead, hf]
  rfl

theorem uploads_uploadRead (c : Client) (n : ReqSeq) (result : Except FileFault Octets) :
    (c.uploadRead n result).uploads = c.uploads.eraseP fun p => p.seq = n := by
  by_cases h : n ∈ c.numbersAt .reading
  · obtain ⟨p, -, -, hf⟩ := find?_of_reading h
    cases result with
    | error fault => rw [uploadRead_error h]; rfl
    | ok octets =>
      rw [uploadRead_ok hf, post_eq]
      split <;> rfl
  · rw [uploadRead_of_not_reading h, List.eraseP_of_forall_not]
    simpa using List.find?_eq_none.1 (find?_of_not_reading h)

/-- Only a call begins to read a file. -/
theorem Transition.reading_le (h : Transition c e c') (n : ReqSeq) :
    (c'.numbersAt .reading).count n
      ≤ (c.numbersAt .reading).count n + (c.allocates e).toList.count n := by
  simp only [numbersAt]
  cases h with
  | reading uri body response session p hs hp hn hh => simp [hn]
  | readPosted | readFailed =>
    exact Nat.le_add_right_of_le ((List.eraseP_sublist.map _).count_le n)
  | _ => exact Nat.le_add_right _ _

/-- What comes of a file is told once. -/
theorem reading_add_reads_le (c : Client) (e : Event) (n : ReqSeq) :
    ((c.step e).numbersAt .reading).count n + ((c.reads e).toList.map (·.1)).count n
      ≤ (c.numbersAt .reading).count n + (c.allocates e).toList.count n := by
  cases hr : c.reads e with
  | none => simpa using (step_transition c e).reading_le n
  | some r =>
    obtain ⟨m, result⟩ := r
    obtain ⟨rfl, hm⟩ := reads_eq_some_iff.1 hr
    obtain ⟨p, -, rfl, hf⟩ := find?_of_reading hm
    have hperm := ((perm_cons_eraseP hf).map (·.seq)).count_eq n
    have huploads := uploads_uploadRead c p.seq result
    simp only [numbersAt, step, huploads, Option.toList_some, List.map_cons, List.map_nil,
      List.count_cons, List.count_nil] at hperm ⊢
    omega

theorem along_reading_le (c : Client) (es : List Event) (n : ReqSeq) :
    ((c.run es).numbersAt .reading).count n + ((c.along reads es).map (·.1)).count n
      ≤ (c.numbersAt .reading).count n + (c.along allocates es).count n := by
  induction es generalizing c with
  | nil => simp [along]
  | cons e es ih =>
    have hstep := reading_add_reads_le c e n
    have hrest := ih (c.step e)
    simp only [run_cons, along, List.map_append, List.count_append] at hrest ⊢
    omega

/-- **A file is read once.** -/
theorem reads_nodup (hlt : ((start config session jar).along allocates es).length < 2 ^ 64) :
    (((start config session jar).along reads es).map (·.1)).Nodup := by
  refine List.nodup_iff_count_le_one.2 fun n => ?_
  have hle := along_reading_le (start config session jar) es n
  have hone := List.nodup_iff_count_le_one.1 (allocates_nodup hlt) n
  have hnone : ((start config session jar).numbersAt .reading).count n = 0 := rfl
  omega

/-! ## Origins -/

/-- In a run a handle made this call, when the client was `d`. -/
def Called (c : Client) (es : List Event) (d : Client) (uri : String) (body : Body)
    (response : ResponseType) : Prop :=
  ∃ before after, es = before ++ .send uri body response :: after ∧ d = c.run before ∧
    d.held = true

theorem Called.append {d : Client} (h : Called c es d uri body response) (fs : List Event) :
    Called c (es ++ fs) d uri body response := by
  obtain ⟨before, after, rfl, hd, hheld⟩ := h
  exact ⟨before, after ++ fs, by simp, hd, hheld⟩

theorem called_concat (c : Client) (es : List Event) (hheld : (c.run es).held = true)
    (uri : String) (body : Body) (response : ResponseType) :
    Called c (es ++ [.send uri body response]) (c.run es) uri body response :=
  ⟨es, [], rfl, rfl, hheld⟩

/-- A request of a call made with everything at hand is what the call asked for. -/
theorem Called.asAsked {d : Client} {body' : Body} {q : Request}
    (hc : Called c es d uri body' response)
    (h : (d.begin uri body response).2 = .ok (.complete q)) :
    ∃ f, AsAsked c.config.version uri body response q f := by
  obtain ⟨before, after, -, rfl, -⟩ := hc
  rw [← run_config c before]
  exact (begin_complete h).2.2

/-- Where a request of a run comes from, with what it asks for. -/
inductive Origin (c : Client) (es : List Event) (q : Request) : Prop where
  /-- A call that had everything at hand. -/
  | complete (d : Client) (uri : String) (body : Body) (response : ResponseType)
      (hc : Called c es d uri body response)
      (h : (d.begin uri body response).2 = .ok (.complete q))
      (hf : ∃ f, AsAsked c.config.version uri body response q f)
  /-- A call whose file was read. Had its octets been at hand, it would have made this request. -/
  | read (d : Client) (uri : String) (body : Body) (response : ResponseType) (octets : Octets)
      (hc : Called c es d uri body response)
      (h : (d.begin uri body response).2 = .ok (.reading q.seq))
      (hr : (q.seq, .ok octets) ∈ c.along reads es)
      (hq : (d.begin uri (body.loaded octets) response).2 = .ok (.complete q))
      (hf : ∃ f, AsAsked c.config.version uri (body.loaded octets) response q f)

theorem Origin.append {q : Request} (h : Origin c es q) (fs : List Event) :
    Origin c (es ++ fs) q := by
  cases h with
  | complete d uri body response hc h hf =>
    exact .complete d uri body response (hc.append fs) h hf
  | read d uri body response octets hc h hr hq hf =>
    refine .read d uri body response octets (hc.append fs) h ?_ hq hf
    rw [along_append]
    exact List.mem_append_left _ hr

/-- An upload comes from a call, and is what the call needs to make its request. -/
def Begun (c : Client) (es : List Event) (p : PendingUpload) : Prop :=
  ∃ d uri body response, Called c es d uri body response ∧
    (d.begin uri body response).2 = .ok (.reading p.seq) ∧
    ∀ octets, (d.begin uri (body.loaded octets) response).2 =
      .ok (.complete (p.request c.config.version octets))

theorem Begun.append {p : PendingUpload} (h : Begun c es p) (fs : List Event) :
    Begun c (es ++ fs) p := by
  obtain ⟨d, uri, body, response, hc, hrest⟩ := h
  exact ⟨d, uri, body, response, hc.append fs, hrest⟩

/-- Everything on its way to the loop comes from a call. -/
structure Stocked (c : Client) (es : List Event) : Prop where
  calls : ∀ r ∈ (c.run es).calls, Origin c es r
  uploads : ∀ p ∈ (c.run es).uploads, Begun c es p
  inbox : ∀ r ∈ requestsOf (c.run es).inbox, Origin c es r

theorem stocked_nil (config : Config) (session : Session) (jar : Jar) :
    Stocked (start config session jar) [] :=
  ⟨nofun, nofun, nofun⟩

/-- Only calls, and what comes of their files, bring requests on their way. -/
theorem Transition.stock (h : Transition c e c') (he : e.forwards = false) :
    c'.calls = c.calls ∧ c'.uploads = c.uploads ∧
      ∀ r ∈ requestsOf c'.inbox, r ∈ requestsOf c.inbox := by
  cases h with
  | numbered | reading | posted | forsaken | readPosted | readFailed => cases he
  | asked e command hc hs hm => simp [hc]
  | dropped r rest hb hi hc | queuedOpen r rest connection hl hi hc | queuedLater r rest hl hi hc
    | queuedDialled r rest session hl hi hc hs | queuedRotated r rest session hl hi hc hs =>
    exact ⟨rfl, rfl, fun q hq => by rw [hi]; exact List.mem_cons_of_mem _ hq⟩
  | cleared rest hb hi | queried rest stats hb hi =>
    exact ⟨rfl, rfl, fun q hq => by rw [hi]; exact hq⟩
  | halted => exact ⟨rfl, rfl, nofun⟩
  | _ => exact ⟨rfl, rfl, fun q hq => hq⟩

/-- What was on its way before comes from where it came from. -/
theorem Stocked.concat (h : Stocked c es) (e : Event)
    (hcalls : ∀ r ∈ ((c.run es).step e).calls, r ∈ (c.run es).calls ∨ Origin c (es ++ [e]) r)
    (huploads : ∀ p ∈ ((c.run es).step e).uploads,
      p ∈ (c.run es).uploads ∨ Begun c (es ++ [e]) p)
    (hinbox : ∀ r ∈ requestsOf ((c.run es).step e).inbox,
      r ∈ requestsOf (c.run es).inbox ∨ Origin c (es ++ [e]) r) : Stocked c (es ++ [e]) := by
  have hrun : c.run (es ++ [e]) = (c.run es).step e := run_append c es [e]
  refine ⟨?_, ?_, ?_⟩ <;> rw [hrun]
  · exact fun r hr => (hcalls r hr).elim (fun hold => (h.calls r hold).append [e]) id
  · exact fun p hp => (huploads p hp).elim (fun hold => (h.uploads p hold).append [e]) id
  · exact fun r hr => (hinbox r hr).elim (fun hold => (h.inbox r hold).append [e]) id

theorem Stocked.idle (h : Stocked c es) (hstep : (c.run es).step e = c.run es) :
    Stocked c (es ++ [e]) :=
  h.concat e (fun _ hr => .inl (hstep ▸ hr)) (fun _ hp => .inl (hstep ▸ hp))
    fun _ hr => .inl (hstep ▸ hr)

/-- A call brings at most what it asks for. -/
theorem Stocked.send (h : Stocked c es) (uri : String) (body : Body) (response : ResponseType) :
    Stocked c (es ++ [.send uri body response]) := by
  by_cases hheld : (c.run es).held = true
  · have hstep : (c.run es).step (.send uri body response) =
        ((c.run es).begin uri body response).1 := by simp only [step, if_pos hheld]
    have hcalled := called_concat c es hheld uri body response
    have hinbox : ((c.run es).begin uri body response).1.inbox = (c.run es).inbox := by
      obtain ⟨session, lastSeq, calls, uploads, heq⟩ := begin_eq (c.run es) uri body response
      rw [heq]
    rcases begin_leaves (c.run es) uri body response with
      ⟨hcalls, huploads⟩ | ⟨r, hr⟩ | ⟨n, hn⟩
    · refine h.concat _ ?_ ?_ ?_ <;> rw [hstep]
      · exact fun r hr => .inl (hcalls ▸ hr)
      · exact fun p hp => .inl (huploads ▸ hp)
      · exact fun r hr => .inl (hinbox ▸ hr)
    · obtain ⟨hcalls, huploads, -⟩ := begin_complete hr
      refine h.concat _ ?_ ?_ ?_ <;> rw [hstep]
      · rw [hcalls, List.forall_mem_append, List.forall_mem_singleton]
        exact ⟨fun _ => .inl, .inr (.complete _ uri body response hcalled hr (hcalled.asAsked hr))⟩
      · exact fun p hp => .inl (huploads ▸ hp)
      · exact fun r hr => .inl (hinbox ▸ hr)
    · obtain ⟨p, rfl, -, -, hcalls, huploads, hloaded⟩ := begin_reading hn
      rw [run_config] at hloaded
      refine h.concat _ ?_ ?_ ?_ <;> rw [hstep]
      · exact fun r hr => .inl (hcalls ▸ hr)
      · rw [huploads, List.forall_mem_append, List.forall_mem_singleton]
        exact ⟨fun _ => .inl, .inr ⟨_, uri, body, response, hcalled, hn, hloaded⟩⟩
      · exact fun r hr => .inl (hinbox ▸ hr)
  · exact h.idle (by simp only [step, if_neg hheld])

/-- What a call posts is what it had numbered. -/
theorem Stocked.finish (h : Stocked c es) (n : ReqSeq) : Stocked c (es ++ [.finish n]) := by
  cases hf : (c.run es).calls.find? fun r => r.seq = n with
  | none => exact h.idle (by simp only [step, hf])
  | some r =>
    have horigin := (h.calls r (List.mem_of_find?_eq_some hf)).append [.finish n]
    refine h.concat _ ?_ ?_ ?_ <;> simp only [step, hf, finish_eq]
    · exact fun q hq => .inl (List.mem_of_mem_eraseP hq)
    · exact fun _ => .inl
    · split
      · exact fun _ => .inl
      · rw [requestsOf_append, List.forall_mem_append]
        exact ⟨fun _ => .inl, List.forall_mem_singleton.2 (.inr horigin)⟩

/-- What a file completes is what its call asked for. -/
theorem Stocked.uploadRead (h : Stocked c es) (n : ReqSeq) (result : Except FileFault Octets) :
    Stocked c (es ++ [.uploadRead n result]) := by
  by_cases hn : n ∈ (c.run es).numbersAt .reading
  · have huploads : ∀ p ∈ ((c.run es).uploadRead n result).uploads, p ∈ (c.run es).uploads := by
      rw [uploads_uploadRead]
      exact fun p hp => List.mem_of_mem_eraseP hp
    refine h.concat _ ?_ (fun p hp => .inl (huploads p hp)) ?_
    · obtain ⟨uploads, inbox, history, heq⟩ := uploadRead_eq (c.run es) n result
      simp only [step, heq]
      exact fun _ => .inl
    · cases result with
      | error fault =>
        simp only [step, uploadRead_error hn]
        exact fun _ => .inl
      | ok octets =>
        obtain ⟨p, hp, rfl, hf⟩ := find?_of_reading hn
        obtain ⟨d, uri, body, response, hc, hreading, hloaded⟩ := h.uploads p hp
        have hread : (p.seq, .ok octets) ∈ c.along reads (es ++ [.uploadRead p.seq (.ok octets)]) :=
          mem_along.2 ⟨es, _, [], rfl, reads_eq_some_iff.2 ⟨rfl, hn⟩⟩
        have horigin : Origin c (es ++ [.uploadRead p.seq (.ok octets)])
            (p.request c.config.version octets) :=
          .read d uri body response octets (hc.append _) hreading hread (hloaded octets)
            (hc.asAsked (hloaded octets))
        simp only [step, uploadRead_ok hf, post_eq, run_config]
        cases hs : (c.run es).stopped with
        | true => exact fun _ => .inl
        | false =>
          simp only [Bool.false_eq_true, if_false, requestsOf_append, List.forall_mem_append]
          exact ⟨fun _ => .inl, List.forall_mem_singleton.2 (.inr horigin)⟩
  · exact h.idle (uploadRead_of_not_reading hn result)

/-- **Whatever is on its way comes from a call**, after any run. -/
theorem stocked_run (config : Config) (session : Session) (jar : Jar) (es : List Event) :
    Stocked (start config session jar) es := by
  induction es using List.reverseRecOn with
  | nil => exact stocked_nil config session jar
  | append_singleton es e ih =>
    cases he : e.forwards with
    | false =>
      obtain ⟨hcalls, huploads, hinbox⟩ := (step_transition _ e).stock he
      exact ih.concat e (fun r hr => .inl (hcalls ▸ hr)) (fun p hp => .inl (huploads ▸ hp))
        fun r hr => .inl (hinbox r hr)
    | true =>
      cases e with
      | send uri body response => exact ih.send uri body response
      | finish n => exact ih.finish n
      | uploadRead n result => exact ih.uploadRead n result
      | _ => cases he

/-- **A request that reaches the loop has an origin.** -/
theorem origin_of_received {q : Request}
    (hq : q ∈ (start config session jar).along receives es) :
    Origin (start config session jar) es q := by
  obtain ⟨before, e, after, rfl, hr⟩ := mem_along.1 hq
  exact ((stocked_run config session jar before).inbox q (mem_inbox_of_receives hr)).append _

/-! ## What becomes of a call -/

/-- A request is queued in a run, or handed to a connection. -/
def Surfaces (c : Client) (es : List Event) (q : Request) : Prop :=
  q ∈ c.along queues es ∨ q ∈ (c.run es).handOvers.map (·.2)

/-- What is queued was received. -/
theorem receives_of_queues {q : Request} (h : c.queues e = some q) : c.receives e = some q := by
  obtain ⟨rfl, hb, hi, -⟩ := queues_eq_some_iff.1 h
  simp [receives, takes, hb, hi]

theorem Surfaces.origin {q : Request} (h : Surfaces (start config session jar) es q) :
    Origin (start config session jar) es q := by
  rcases h with h | h
  · obtain ⟨before, e, after, heq, hq⟩ := mem_along.1 h
    exact origin_of_received (mem_along.2 ⟨before, e, after, heq, receives_of_queues hq⟩)
  · exact origin_of_received (received_of_handed h)

theorem allocates_send : c.allocates (.send uri body response) = some n ↔ c.held = true ∧
    ((∃ r, (c.begin uri body response).2 = .ok (.complete r) ∧ r.seq = n) ∨
      (c.begin uri body response).2 = .ok (.reading n)) := by
  cases hheld : c.held with
  | false => simp [allocates, hheld]
  | true =>
    cases h : (c.begin uri body response).2 with
    | error e => simp [allocates, hheld, h]
    | ok call => cases call <;> simp [allocates, hheld, h]

/-- **The number of a request tells its call.** -/
theorem Origin.of_call {q : Request}
    (hfew : ((start config session jar).along allocates es).length < 2 ^ 64)
    {before after : List Event} (hes : es = before ++ .send uri body response :: after)
    (ha : ((start config session jar).run before).allocates (.send uri body response) = some q.seq)
    (h : Origin (start config session jar) es q) :
    (((start config session jar).run before).begin uri body response).2 = .ok (.complete q) ∨
      (((start config session jar).run before).begin uri body response).2 = .ok (.reading q.seq) ∧
        ∃ octets, (q.seq, .ok octets) ∈ (start config session jar).along reads es ∧
          (((start config session jar).run before).begin uri (body.loaded octets) response).2 =
            .ok (.complete q) := by
  have hsame : ∀ {d uri' body' response'},
      Called (start config session jar) es d uri' body' response' →
      (d.held = true → d.allocates (.send uri' body' response') = some q.seq) →
      d = (start config session jar).run before ∧ uri' = uri ∧ body' = body ∧
        response' = response := by
    rintro d uri' body' response' ⟨before', after', hes', rfl, hheld⟩ ha'
    obtain ⟨rfl, he, -⟩ := along_unique (allocates_nodup hfew) hes hes' ha (ha' hheld)
    cases he
    exact ⟨rfl, rfl, rfl, rfl⟩
  cases h with
  | complete d uri' body' response' hc h =>
    obtain ⟨rfl, rfl, rfl, rfl⟩ :=
      hsame hc fun hheld => allocates_send.2 ⟨hheld, .inl ⟨q, h, rfl⟩⟩
    exact .inl h
  | read d uri' body' response' octets hc h hr hq =>
    obtain ⟨rfl, rfl, rfl, rfl⟩ := hsame hc fun hheld => allocates_send.2 ⟨hheld, .inr h⟩
    exact .inr ⟨h, octets, hr, hq⟩

/-- What becomes of a request whose file cannot be read. -/
structure Failed (c : Client) (es : List Event) (n : ReqSeq) (fault : FileFault) : Prop where
  /-- It fails with that, once. -/
  outcome_eq : (c.run es).outcome? n = some (.error (.file fault))
  settled_once : ((c.run es).numbersAt .settled).count n = 1
  /-- It is never queued or handed to a connection. -/
  hidden : ∀ q, Surfaces c es q → q.seq ≠ n
  /-- When it fails, the loop is told nothing, and nothing happens to connections. -/
  inert : ∀ before after, es = before ++ .uploadRead n (.error fault) :: after →
    ((c.run before).step (.uploadRead n (.error fault))).inbox = (c.run before).inbox ∧
      ((c.run before).step (.uploadRead n (.error fault))).outbox = (c.run before).outbox ∧
      ((c.run before).step (.uploadRead n (.error fault))).link = (c.run before).link
  /-- Every handshake comes after a pause, or with the queueing of another request. -/
  undialled : ∀ before e after cookies, es = before ++ e :: after →
    Dials (c.run before) ((c.run before).step e) cookies →
    e = .retry ∨ ∃ q, (c.run before).queues e = some q ∧ q.seq ≠ n

/-- What becomes of a call with the number `n`, made when the client was `d`. -/
inductive Honoured (c : Client) (es : List Event) (d : Client) (uri : String) (body : Body)
    (response : ResponseType) (n : ReqSeq) : Prop where
  /-- Everything was at hand. Then its request is what it asked for, and nothing else is ever queued
  or handed over under its number. -/
  | complete (r : Request) (f : Frame) (h : (d.begin uri body response).2 = .ok (.complete r))
      (hseq : r.seq = n) (hf : AsAsked c.config.version uri body response r f)
      (honly : ∀ q, Surfaces c es q → q.seq = n → q = r)
  /-- The file of the body was read first. With its octets the request is the one that they would
  have made in memory, and without them there is none. -/
  | reading (u : Upload) (h : (d.begin uri body response).2 = .ok (.reading n))
      (hfile : body.files = [u])
      (hread : ∀ octets, (n, .ok octets) ∈ c.along reads es →
        ∃ r f, (d.begin uri (body.loaded octets) response).2 = .ok (.complete r) ∧ r.seq = n ∧
          AsAsked c.config.version uri (body.loaded octets) response r f ∧
          f.content = body.content ∧ f.attachments = [⟨u.name, octets⟩] ∧
          ∀ q, Surfaces c es q → q.seq = n → q = r)
      (hunread : ∀ q, Surfaces c es q → q.seq = n → ∃ octets, (n, .ok octets) ∈ c.along reads es)
      (hfailed : ∀ fault, (n, .error fault) ∈ c.along reads es → Failed c es n fault)

/-- A handshake starts after a pause, or for a request that is queued without a connection. -/
theorem Transition.dials_for (h : Transition c e c') {cookies : Option String}
    (hd : Dials c c' cookies) : e = .retry ∨ ∃ q, c.queues e = some q := by
  have hnot : ¬ Undialled c c' := fun hu => hu.not_dials hd
  cases h with
  | queuedDialled r rest session hl hi hc hs =>
    exact .inr ⟨r, queues_eq_some_iff.2 ⟨rfl, by simp [hl, Link.isBusy], by simp [hi], hc⟩⟩
  | redialled => exact .inl rfl
  | quiet e jar session handlers held new hnew =>
    exact absurd ⟨by simp [handshakes, dialled?_quiet hnew], fun _ => id⟩ hnot
  | _ => exact absurd ⟨by simp [handshakes, List.filterMap_cons], by simp⟩ hnot

/-- **A request whose file cannot be read** fails with that and goes nowhere. -/
theorem failed_of_reads {fault : FileFault}
    (hfew : ((start config session jar).along allocates es).length < 2 ^ 64)
    (hr : (n, .error fault) ∈ (start config session jar).along reads es)
    (hhidden : ∀ q, Surfaces (start config session jar) es q → q.seq ≠ n) :
    Failed (start config session jar) es n fault := by
  obtain ⟨before, e, after, heq, he⟩ := mem_along.1 hr
  obtain ⟨rfl, hn⟩ := reads_eq_some_iff.1 he
  have hsettled : (n, .error (.file fault)) ∈
      ((start config session jar).run (before ++ [.uploadRead n (.error fault)])).outcomes := by
    rw [run_append, run_cons, run_nil]
    simp only [step, uploadRead_error hn]
    exact List.mem_cons_self
  have hrest : es = (before ++ [.uploadRead n (.error fault)]) ++ after := by simp [heq]
  have hconserved := (conserved_start config session jar).run es (by omega)
  rw [hrest, run_append] at hconserved
  obtain ⟨houtcome, honce⟩ := hconserved.outcome_stays hsettled
  rw [← run_append, ← hrest] at houtcome honce
  refine ⟨houtcome, honce, hhidden, ?_, ?_⟩
  · intro before' after' _
    by_cases hn' : n ∈ ((start config session jar).run before').numbersAt .reading
    · simp only [step, uploadRead_error hn']
      exact ⟨rfl, rfl, rfl⟩
    · simp only [step, uploadRead_of_not_reading hn', and_self]
  · intro before' e' after' cookies heq' hdials
    rcases (step_transition _ e').dials_for hdials with hretry | ⟨q, hq⟩
    · exact .inl hretry
    · exact .inr ⟨q, hq, hhidden q (.inl (mem_along.2 ⟨before', e', after', heq', hq⟩))⟩

/-- **What is transmitted is what was asked.** Whatever is queued or handed to a connection comes
from a call and is exactly what the call asked for; and as long as the numbers last, a call with a
number has that request under its number and no other, or none if its file cannot be read. -/
theorem sent_as_asked (config : Config) (session : Session) (jar : Jar) (events : List Event) :
    (∀ q, Surfaces (start config session jar) events q →
      Origin (start config session jar) events q) ∧
    (((start config session jar).along allocates events).length < 2 ^ 64 →
      ∀ before uri body response after n, events = before ++ .send uri body response :: after →
        ((start config session jar).run before).allocates (.send uri body response) = some n →
        Honoured (start config session jar) events ((start config session jar).run before) uri body
          response n) := by
  refine ⟨fun q hq => hq.origin, ?_⟩
  intro hfew before uri body response after n heq ha
  have hcalled : Called (start config session jar) events ((start config session jar).run before)
      uri body response := ⟨before, after, heq, rfl, (allocates_send.1 ha).1⟩
  have horigin : ∀ q, Surfaces (start config session jar) events q → q.seq = n → _ :=
    fun q hq hseq => hq.origin.of_call hfew heq (hseq ▸ ha)
  rcases (allocates_send.1 ha).2 with ⟨r, hr, hseq⟩ | hreading
  · obtain ⟨f, hf⟩ := hcalled.asAsked hr
    refine .complete r f hr hseq hf fun q hq hqn => ?_
    rcases horigin q hq hqn with h | ⟨h, -⟩ <;> rw [hr] at h <;> cases h
    rfl
  · -- Whatever surfaces under the number was completed by the one result of the file.
    have hread : ∀ q, Surfaces (start config session jar) events q → q.seq = n →
        ∃ octets, (n, .ok octets) ∈ (start config session jar).along reads events ∧
          (((start config session jar).run before).begin uri (body.loaded octets) response).2 =
            .ok (.complete q) := by
      rintro q hq rfl
      rcases horigin q hq rfl with h | ⟨-, h⟩
      · rw [hreading] at h
        cases h
      · exact h
    have honce : ∀ {result result'},
        (n, result) ∈ (start config session jar).along reads events →
        (n, result') ∈ (start config session jar).along reads events → result = result' :=
      fun h h' => (Prod.ext_iff.1 (List.inj_on_of_nodup_map (reads_nodup hfew) h h' rfl)).2
    obtain ⟨p, hseq, hfile, hdisk, -, -, hloaded⟩ := begin_reading hreading
    refine .reading p.upload hreading hfile ?_ ?_ ?_
    · intro octets hoctets
      obtain ⟨f, hf⟩ := hcalled.asAsked (hloaded octets)
      obtain ⟨hcontent, hattachments⟩ := hf.of_loaded hfile hdisk
      refine ⟨_, f, hloaded octets, hseq, hf, hcontent, hattachments, fun q hq hqn => ?_⟩
      obtain ⟨octets', hoctets', h⟩ := hread q hq hqn
      cases honce hoctets hoctets'
      rw [hloaded octets] at h
      cases h
      rfl
    · intro q hq hqn
      obtain ⟨octets, hoctets, -⟩ := hread q hq hqn
      exact ⟨octets, hoctets⟩
    · intro fault hfault
      refine failed_of_reads hfew hfault fun q hq hqn => ?_
      obtain ⟨octets, hoctets, -⟩ := hread q hq hqn
      cases honce hfault hoctets

/-- Of two files on disk one is read and the other is not: the first request is queued with its
octets, the second fails. -/
theorem sent_as_asked_read :
    let body : Body := .form [("note", .text "x"), ("file", .file ⟨"n", .disk "/tmp/n"⟩)]
    let events : List Event := [.send "/a%20b" body .raw, .uploadRead 1 (.ok [1, 2]),
      .send "/c" body .raw, .uploadRead 2 (.error .notFound), .command]
    (∃ r f, (fresh.begin "/a%20b" (body.loaded [1, 2]) .raw).2 = .ok (.complete r) ∧ r.seq = 1 ∧
      AsAsked Config.standard.version "/a%20b" (body.loaded [1, 2]) .raw r f ∧
      f.content = body.content ∧ f.attachments = [⟨"n", [1, 2]⟩] ∧
      ∀ q, Surfaces fresh events q → q.seq = 1 → q = r) ∧
    Failed fresh events 2 .notFound ∧ (fresh.along queues events).map (·.seq) = [1] := by
  intro body events
  have hfew : (fresh.along allocates events).length < 2 ^ 64 :=
    Nat.lt_of_le_of_lt (along_length_le _ _) (by decide)
  have hcalls := (sent_as_asked .standard (.new "sid") .empty events).2 hfew
  have hfirst : Honoured fresh events fresh "/a%20b" body .raw 1 :=
    hcalls [] "/a%20b" body .raw _ 1 rfl (by decide +kernel)
  have hsecond : Honoured fresh events (fresh.run (events.take 2)) "/c" body .raw 2 :=
    hcalls (events.take 2) "/c" body .raw _ 2 rfl (by decide +kernel)
  have hreading : (fresh.begin "/a%20b" body .raw).2 = .ok (.reading 1) ∧
      ((fresh.run (events.take 2)).begin "/c" body .raw).2 = .ok (.reading 2) := ⟨rfl, rfl⟩
  have hreads : fresh.along reads events = [(1, .ok [1, 2]), (2, .error .notFound)] := by
    decide +kernel
  refine ⟨?_, ?_, by decide +kernel⟩
  · cases hfirst with
    | complete r f h =>
      rw [hreading.1] at h
      cases h
    | reading u h hfile hread =>
      cases hfile
      exact hread [1, 2] (by simp [hreads])
  · cases hsecond with
    | complete r f h =>
      rw [hreading.2] at h
      cases h
    | reading u h hfile hread hunread hfailed => exact hfailed .notFound (by simp [hreads])

end Client

end Courier

import Courier.Proofs.Correlation
import Courier.Proofs.Transmission
import Mathlib.Data.List.Induction

/-!
# Only what was transmitted is answered

A request is entered into the table before its connection takes it. If the connection breaks on
it the whole table goes back into the queue, so an entry that is still there at a boundary of
the loop was taken.

* `Transmitted`: a connection took the request of an entry, and the entry never left the table
  since it was handed over.
* `awaiting_transmitted`: **at every boundary this holds of every entry.**
* `answered_after_transmission`: so it holds of every request that gets a reply.
-/

namespace Courier.Client

variable {c c' : Client} {e : Event} {es : List Event} {x : ReqSeq × InFlight} {connection : Nat}

/-! ## From the queue into the table -/

/-- After the events `a` the loop turned to the head of the queue, handed it to a connection and
made the entry `x` of it, which stayed in the table over the events `b` that followed. -/
structure Entered (c : Client) (x : ReqSeq × InFlight) (connection : Nat) (a b : List Event) :
    Prop where
  handed : (c.run a).handedIn [.next] = [(connection, x.2.request)]
  stays : ∀ m, m <+: b → x ∈ (c.run (a ++ .next :: m)).outbox.awaiting

/-- Since the request of `x` left the queue, its connection took it, and it never went back. -/
def Transmitted (c : Client) (es : List Event) (x : ReqSeq × InFlight) : Prop :=
  ∃ connection a b d, es = a ++ .next :: (b ++ .taken :: d) ∧
    Entered c x connection a (b ++ .taken :: d) ∧
    (c.run (a ++ .next :: b)).link = .sending connection x.2.request

/-- The request of `x` was handed over, and its connection has not taken it yet. -/
def InTransfer (c : Client) (es : List Event) (x : ReqSeq × InFlight) : Prop :=
  ∃ connection a b, es = a ++ .next :: b ∧ Entered c x connection a b ∧
    (c.run es).link = .sending connection x.2.request

theorem Entered.concat {a b : List Event} (h : Entered c x connection a b)
    (hx : x ∈ (c.run (a ++ .next :: (b ++ [e]))).outbox.awaiting) :
    Entered c x connection a (b ++ [e]) := by
  refine ⟨h.handed, fun m hm => ?_⟩
  rcases List.prefix_concat_iff.1 hm with rfl | hm
  · exact hx
  · exact h.stays m hm

theorem Transmitted.concat (h : Transmitted c es x)
    (hx : x ∈ (c.run (es ++ [e])).outbox.awaiting) : Transmitted c (es ++ [e]) x := by
  obtain ⟨connection, a, b, d, rfl, hentered, hlink⟩ := h
  refine ⟨connection, a, b, d ++ [e], by simp, ?_, hlink⟩
  have hconcat := hentered.concat (e := e) (by simpa using hx)
  simpa using hconcat

/-- While a connection has not taken what it was handed, it takes it, or it breaks and the whole
table goes back into the queue, or nothing of this changes. -/
theorem Transition.sending_cases (h : Transition c e c') (hs : c.Steady) {r : Request}
    (hl : c.link = .sending connection r) :
    e = .taken ∨ c'.outbox.awaiting = [] ∨ c'.link = .sending connection r := by
  have hidle := (hs.up connection (by rw [hl]; rfl)).1
  cases h with
  | taken => exact .inl rfl
  | ended e clean he =>
    cases he with
    | broken => exact .inr (.inl (by simp [hidle]))
    | refused cookies hl' => simp [hl] at hl'
    | closed k clean hl' => simp [hl] at hl'
  | halted e rest hb he => simp [hl, Link.isBusy] at hb
  | cleared => exact .inr (.inl rfl)
  | queuedOpen | queuedDialled | queuedRotated | connected | answered | redialled | rotated
  | drained | skipped | handed => simp_all
  | _ => exact .inr (.inr hl)

theorem step_of_hands {r : Request} (h : c.hands e = some (connection, r)) :
    e = .next ∧ c.step e = note { c with
      outbox := { c.outbox with queue := c.outbox.queue.tail }.markSent r
      link := .sending connection r } (.handed connection r) := by
  obtain ⟨rfl, hl, hq, hc⟩ := hands_eq_some_iff.1 h
  obtain ⟨rest, hq⟩ := List.head?_eq_some_iff.1 hq
  refine ⟨rfl, ?_⟩
  simp [step, hl, drainNext, Outbox.pop?, hq, hc]

/-- **Every entry was transmitted**, but for one whose transfer is under way. -/
theorem entry_cases (hreach : c.Reachable) (h₀ : c.outbox.awaiting = []) (es : List Event) :
    ∀ x ∈ (c.run es).outbox.awaiting, Transmitted c es x ∨ InTransfer c es x := by
  -- By induction on the run, which is taken apart at its last event.
  induction es using List.reverseRecOn with
  | nil => simp [h₀]
  | append_singleton es e ih =>
    intro x hx
    have hsteady := reachable_steady (hreach.run es)
    have ht := step_transition (c.run es) e
    have hlast : c.run (es ++ [e]) = (c.run es).step e := run_append c es [e]
    rcases ht.awaiting_cases hsteady.valid with ⟨hn, hsub⟩ | ⟨connection, r, hhands, hentered⟩
    · rcases ih x (hsub.subset (hlast ▸ hx)) with htransmitted | ⟨connection, a, b, rfl, hin, hl⟩
      · exact .inl (htransmitted.concat hx)
      have hin' := hin.concat (e := e) (by simpa using hx)
      rcases ht.sending_cases hsteady hl with rfl | hempty | hsame
      · exact .inl ⟨connection, a, b, [], by simp, hin', hl⟩
      · rw [hlast, hempty] at hx
        cases hx
      · exact .inr ⟨connection, a, b ++ [e], by simp, hin', hlast ▸ hsame⟩
    · obtain ⟨rfl, hstep⟩ := step_of_hands hhands
      rw [hlast, hentered, Outbox.markSent, List.mem_append, List.mem_singleton] at hx
      rcases hx with hold | rfl
      · have hx : x ∈ (c.run (es ++ [.next])).outbox.awaiting := by
          rw [hlast, hentered, Outbox.markSent]
          exact List.mem_append_left _ hold
        rcases ih x (List.mem_of_mem_filter hold) with htransmitted | ⟨k, a, b, rfl, -, hl⟩
        · exact .inl (htransmitted.concat hx)
        · -- A loop that hands over a request is not waiting for another one to be taken.
          obtain ⟨-, hl', -⟩ := hands_eq_some_iff.1 hhands
          rw [hl] at hl'
          cases hl'
      · have hhanded : (c.run es).handedIn [.next] = [(connection, r)] := by
          rw [handedIn_singleton, hhands]
          rfl
        refine .inr ⟨connection, es, [], rfl, ⟨hhanded, fun m hm => ?_⟩, ?_⟩
        · rw [List.prefix_nil.1 hm, hlast, hentered, Outbox.markSent]
          exact List.mem_append_right _ (List.mem_singleton_self _)
        · rw [hlast, hstep]
          rfl

/-- **At every boundary of the loop the whole table was transmitted.** -/
theorem awaiting_transmitted (hreach : c.Reachable) (h₀ : c.outbox.awaiting = [])
    (hlink : (∀ connection r, (c.run es).link ≠ .sending connection r))
    (hx : x ∈ (c.run es).outbox.awaiting) : Transmitted c es x := by
  refine (entry_cases hreach h₀ es x hx).resolve_right ?_
  rintro ⟨connection, a, b, -, -, hl⟩
  exact hlink _ _ hl

/-! ## Replies -/

/-- **Only a frame brings a reply.** -/
theorem Transition.answered_of_ok (h : Transition c e c') (hv : c.outbox.Valid) {n : ReqSeq}
    {reply : Reply} (hold : .settled n (.ok reply) ∉ c.history)
    (hnew : .settled n (.ok reply) ∈ c'.history) :
    ∃ frame content x, e = .received frame ∧ (∃ connection, c.link = .opened connection) ∧
      x ∈ c.outbox.awaiting ∧ x.1 = n ∧ x.2.request.seq = n ∧ Addresses frame n ∧
      RepliesWith c.config.version frame content ∧
      Reply.coerce n x.2.request.response content = .ok reply ∧
      c'.history = .settled n (.ok reply) :: .received frame :: c.history := by
  cases h with
  | answered b connection seq outcome r outbox hl hj ht =>
    obtain ⟨haddressed, hjudged⟩ := judge_settle hj
    obtain ⟨before, stamp, after, heq, -, rfl⟩ := hv.take?_eq_some ht
    have hsettled : n = r.seq ∧ outcome r.response = .ok reply := by
      simp only [List.mem_cons, Occurrence.settled.injEq, reduceCtorEq, false_or] at hnew
      rcases hnew with ⟨hn, hok⟩ | hnew
      · exact ⟨hn, hok.symm⟩
      · exact absurd hnew hold
    obtain ⟨rfl, hok⟩ := hsettled
    obtain ⟨content, hreplies, hcoerce⟩ := (hjudged.ok_iff _ _).1 hok
    exact ⟨b, content, (r.seq, ⟨stamp, r⟩), rfl, ⟨connection, hl⟩, by simp [heq], rfl, rfl,
      haddressed, hreplies, hcoerce, by rw [hok]⟩
  | quiet e jar session handlers held new hq hr hm =>
    rcases List.mem_append.1 hnew with hnew | hnew
    · have := hq _ hnew
      cases this
    · exact absurd hnew hold
  | halted e rest hb he =>
    rcases hl : c.link <;> simp [failures, closing, hl] at hnew <;> exact absurd hnew hold
  | _ =>
    simp [failures] at hnew
    exact absurd hnew hold

/-- **Only transmitted requests are awaited or answered.** At a boundary of the loop every entry
of the table was transmitted. A reply comes of a frame that came in while its request was such
an entry, and is what that frame says. While there is anything in the queue no frame is taken
in at all. -/
theorem answered_after_transmission (config : Config) (session : Session) (jar : Jar)
    (events : List Event) :
    (((start config session jar).run events).link.isBusy = false →
      ∀ x ∈ ((start config session jar).run events).outbox.awaiting,
        Transmitted (start config session jar) events x) ∧
    (∀ n reply, .settled n (.ok reply) ∈ ((start config session jar).run events).history →
      ∃ before frame after content x, events = before ++ .received frame :: after ∧
        x ∈ ((start config session jar).run before).outbox.awaiting ∧
        Transmitted (start config session jar) before x ∧ x.1 = n ∧ x.2.request.seq = n ∧
        Addresses frame n ∧ RepliesWith config.version frame content ∧
        Reply.coerce n x.2.request.response content = .ok reply ∧
        ((start config session jar).run (before ++ [.received frame])).history =
          .settled n (.ok reply) :: .received frame ::
            ((start config session jar).run before).history) ∧
    ∀ r ∈ ((start config session jar).run events).outbox.queue, ∀ frame,
      (start config session jar).run (events ++ [.received frame]) =
        (start config session jar).run events := by
  have hreach := reachable_start config session jar
  refine ⟨fun hb x hx => awaiting_transmitted hreach rfl ?_ hx, fun n reply hn => ?_,
    fun r hr frame => ?_⟩
  · intro connection r hl
    simp [hl, Link.isBusy] at hb
  · obtain ⟨before, e, after, heq, hold, hnew⟩ := exists_first
      (P := fun c => .settled n (.ok reply) ∈ c.history) (by simp [start]) hn
    have hv := reachable_valid (hreach.run before)
    obtain ⟨frame, content, x, rfl, ⟨connection, hl⟩, hx, hkey, hseq, haddressed, hreplies,
      hcoerce, hhistory⟩ := (step_transition _ e).answered_of_ok hv hold hnew
    rw [run_config] at hreplies
    have htransmitted := awaiting_transmitted hreach rfl (by simp [hl]) hx
    refine ⟨before, frame, after, content, x, heq, hx, htransmitted, hkey, hseq, haddressed,
      hreplies, hcoerce, ?_⟩
    rw [run_append]
    exact hhistory
  · -- The loop listens to a connection only when the queue is empty.
    have hsteady := reachable_steady (hreach.run events)
    rw [run_append, run_cons, run_nil, step]
    cases hl : ((start config session jar).run events).link with
    | opened connection =>
      rw [hsteady.opened connection hl] at hr
      cases hr
    | _ => rfl

/-- A request that was transmitted and got its reply. -/
theorem answered_after_transmission_reply :
    ∃ before frame after x,
      transmission ++ [.received (answerTo 1)] = before ++ .received frame :: after ∧
      Transmitted fresh before x ∧ x.2.request.seq = 1 := by
  have hn : .settled 1 (.ok (.raw .nil)) ∈
      (fresh.run (transmission ++ [.received (answerTo 1)])).history := by
    refine List.mem_of_mem_head? ?_
    rfl
  obtain ⟨before, frame, after, -, x, heq, -, htransmitted, -, hseq, -⟩ :=
    (answered_after_transmission .standard (.new "sid") .empty _).2.1 1 _ hn
  exact ⟨before, frame, after, x, heq, htransmitted, hseq⟩

end Courier.Client

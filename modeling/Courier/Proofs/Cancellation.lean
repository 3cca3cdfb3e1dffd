import Courier.Proofs.CleanClose
import Courier.Proofs.Correlation

/-!
# Replies that are given up

A caller may give up a reply at any time. Its request is never handed over from then on, wherever it
is at that moment and wherever it gets to later. Whoever comes across it throws it away alone, and
what stands around it in the queue is handed over as if it were not there. What is handed over is
read off the history that a run leaves.

* `unsent_of_cancelled`: **what nobody waits for is not handed over**, in any later run.
* `Unwanted`: what becomes of it instead, and that nothing else is touched.
* `swept_of_empties`: **a queue that is emptied without a failure** is handed over in its order,
  each request once, but for those that nobody waits for.
* `cancelled_unsent`: all of this, in any run.
-/

namespace Courier

/-- A weaker condition keeps more of a list, in its order. -/
theorem sublist_filter_of_imp {α : Type} {p q : α → Bool} {l : List α}
    (h : ∀ a ∈ l, p a = true → q a = true) : (l.filter p).Sublist (l.filter q) := by
  have hboth : l.filter p = (l.filter q).filter p := by
    rw [List.filter_filter]
    refine List.filter_congr fun a ha => ?_
    cases hp : p a with
    | true => rw [h a ha hp]; rfl
    | false => rfl
  rw [hboth]
  exact List.filter_sublist

namespace Client

variable {c c' : Client} {e : Event} {es ds : List Event} {n : ReqSeq} {r : Request}
  {connection : Nat}

/-! ## What nobody waits for -/

/-- No request of this number is handed over in a run, by the history that the run leaves. -/
structure Unsent (n : ReqSeq) (c : Client) (es : List Event) : Prop where
  /-- What was recorded before stays on record, and what is handed over is recorded behind it. -/
  recorded : (c.run es).handOvers = c.handOvers ++ c.handedIn es
  absent : ∀ q ∈ c.handedIn es, q.2.seq ≠ n

/-- **What nobody waits for is not handed over.** -/
theorem unsent_of_cancelled (hn : n ∈ c.cancelled) (es : List Event) : Unsent n c es where
  recorded := run_handOvers c es
  absent := by
    rintro ⟨connection, r⟩ hq rfl
    obtain ⟨before, after, rfl, -, -, hwaited⟩ := mem_handedIn.1 hq
    have hgiven := run_cancelled hn before
    simp [isCancelled, hgiven] at hwaited

/-- What becomes of a request that nobody waits for, wherever it is. -/
structure Unwanted (n : ReqSeq) (c : Client) : Prop where
  /-- The loop receives it and throws it away. -/
  received : ∀ r rest, c.link.isBusy = false → c.inbox = .enqueue r :: rest → r.seq = n →
    c.step .command = { c with inbox := rest, history := .discarded n :: c.history }
  /-- The loop comes to it in the queue and throws it away, and what stands behind it moves up. -/
  reached : ∀ connection r rest, c.link = .draining connection → c.outbox.queue = r :: rest →
    r.seq = n → c.step .next = { c with
      outbox := { c.outbox with queue := rest }
      history := .discarded n :: c.history }
  /-- Its answer comes after all: its own entry goes, and nothing else is changed. -/
  answered : ∀ connection b, c.link = .opened connection → Addresses b n →
    n ∈ c.numbersAt .awaiting → ∃ before entry after outcome,
      c.outbox.awaiting = before ++ (n, entry) :: after ∧ entry.request.seq = n ∧
      c.step (.received b) = { c with
        outbox := { c.outbox with awaiting := before ++ after }
        history := .settled n outcome :: .received b :: c.history }

theorem unwanted_of_cancelled (hc : c.Reachable) (hn : n ∈ c.cancelled) : Unwanted n c where
  received := by
    rintro r rest hb hi rfl
    have hgiven : c.isCancelled r.seq = true := by simpa [isCancelled] using hn
    have hgiven' : isCancelled { c with inbox := rest } r.seq = true := hgiven
    simp only [step, hb, Bool.false_eq_true, if_false, takeCommand, hi, enqueue, hgiven', if_true]
    rfl
  reached := by
    rintro connection r rest hl hq rfl
    have hgiven : c.isCancelled r.seq = true := by simpa [isCancelled] using hn
    simp only [step, hl, drainNext, Outbox.pop?, hq, hgiven, if_true]
    rfl
  answered := by
    intro connection b hl ha hawaiting
    obtain ⟨before, entry, after, outcome, htable, hseq, -, hstep⟩ :=
      received_of_addressed hl (reachable_valid hc) ha hawaiting
    exact ⟨before, entry, after, _, htable, hseq, hstep⟩

/-! ## What somebody waits for -/

/-- The requests that somebody waits for. -/
def wanted (c : Client) (rs : List Request) : List Request :=
  rs.filter fun r => !c.isCancelled r.seq

theorem waited_of_reaches {waited : Bool} (h : c.reaches e = some (r, waited)) :
    waited = !c.isCancelled r.seq := by
  unfold reaches at h
  split at h
  · split at h
    · obtain ⟨q, -, heq⟩ := Option.map_eq_some_iff.1 h
      cases heq
      rfl
    · cases h
  · cases h

/-- A request for which somebody waits when it is reached had somebody waiting at the beginning, and
one that has somebody to the end has somebody then. -/
theorem waited_of_along {p : Request × Bool} (hp : p ∈ c.along reaches ds) :
    (p.2 = true → c.isCancelled p.1.seq = false) ∧
      ((c.run ds).isCancelled p.1.seq = false → p.2 = true) := by
  obtain ⟨r, waited⟩ := p
  obtain ⟨before, e, after, rfl, hreaches⟩ := mem_along.1 hp
  have hwaited := waited_of_reaches hreaches
  have hmono {a : Client} {fs : List Event} (h : (a.run fs).isCancelled r.seq = false) :
      a.isCancelled r.seq = false := by
    simp only [isCancelled, List.contains_eq_mem, decide_eq_false_iff_not] at h ⊢
    exact fun hmem => h (run_cancelled hmem fs)
  constructor
  · rintro rfl
    exact hmono (by simpa using hwaited.symm)
  · intro hlast
    rw [run_append] at hlast
    rw [hwaited, hmono hlast]
    rfl

/-- Only giving up a reply changes who waits. -/
theorem Transition.cancelled_eq (h : Transition c e c') (he : ∀ m, e ≠ .cancel m) :
    c'.cancelled = c.cancelled := by
  cases h with
  | cancelled seq => exact absurd rfl (he seq)
  | _ => rfl

theorem run_cancelled_eq (h : ∀ m, Event.cancel m ∉ ds) : (c.run ds).cancelled = c.cancelled := by
  induction ds generalizing c with
  | nil => rfl
  | cons e ds ih =>
    simp only [List.mem_cons, not_or] at h
    have hstep := (step_transition c e).cancelled_eq fun m => Ne.symm (h m).1
    rw [run_cons, ih fun m => (h m).2, hstep]

/-- These events empty the queue into a connection, and no transmission fails. -/
structure Empties (c : Client) (connection : Nat) (ds : List Event) : Prop where
  busy : c.link.isBusy = true
  link : c.link.connection? = some connection
  drains : c.drains ds = true
  opened : (c.run ds).link = .opened connection

/-- What is handed over when the queue is emptied, by the history that this leaves. -/
structure Swept (c : Client) (connection : Nat) (ds : List Event) : Prop where
  recorded : (c.run ds).handOvers = c.handOvers ++ c.handedIn ds
  destination : ∀ q ∈ c.handedIn ds, q.1 = connection
  /-- Every request is reached once, in the order of the queue. -/
  reached : (c.along reaches ds).map (·.1) = c.outbox.queue
  /-- Those are handed over, in this order, that somebody waits for when they are reached. -/
  handed : (c.handedIn ds).map (·.2) = ((c.along reaches ds).filter (·.2)).map (·.1)
  /-- None is handed over that nobody waited for at the beginning. -/
  at_most : ((c.handedIn ds).map (·.2)).Sublist (c.wanted c.outbox.queue)
  /-- None is left out that somebody waits for to the end. -/
  at_least : ((c.run ds).wanted c.outbox.queue).Sublist ((c.handedIn ds).map (·.2))
  /-- So if no reply is given up meanwhile, those are handed over that somebody waits for. -/
  exact_eq : (∀ m, Event.cancel m ∉ ds) → (c.handedIn ds).map (·.2) = c.wanted c.outbox.queue

/-- **A queue that is emptied without a failure** is handed over in its order, each request once,
but for those that nobody waits for. -/
theorem swept_of_empties (h : Empties c connection ds) : Swept c connection ds := by
  have hempty : Emptying connection c.outbox.queue c := ⟨h.busy, h.link, rfl⟩
  have hreached : (c.along reaches ds).map (·.1) = c.outbox.queue := by
    obtain ⟨left, hqueue, hleft⟩ := hempty.run h.drains
    have hnone : left = [] := by
      rcases hleft with hleft | ⟨-, hnone⟩ | ⟨secs, hl⟩
      · have hbusy := hleft.busy
        rw [h.opened] at hbusy
        cases hbusy
      · exact hnone
      · rw [h.opened] at hl
        cases hl
    rw [← hqueue, hnone, List.append_nil]
  have hrecorded := hempty.handedIn_eq h.drains
  have hhanded : (c.handedIn ds).map (·.2) = ((c.along reaches ds).filter (·.2)).map (·.1) := by
    rw [hrecorded, List.map_map]
    rfl
  have hwanted (a : Client) : a.wanted c.outbox.queue =
      ((c.along reaches ds).filter fun p => !a.isCancelled p.1.seq).map (·.1) := by
    rw [wanted, ← hreached, List.filter_map]
    rfl
  have hmost : ((c.handedIn ds).map (·.2)).Sublist (c.wanted c.outbox.queue) := by
    rw [hhanded, hwanted]
    refine (sublist_filter_of_imp fun p hp hwaited => ?_).map _
    rw [(waited_of_along hp).1 hwaited]
    rfl
  have hleast : ((c.run ds).wanted c.outbox.queue).Sublist ((c.handedIn ds).map (·.2)) := by
    rw [hhanded, hwanted]
    refine (sublist_filter_of_imp fun p hp hwaits => ?_).map _
    exact (waited_of_along hp).2 (by simpa using hwaits)
  refine ⟨run_handOvers c ds, ?_, hreached, hhanded, hmost, hleast, fun hkept => ?_⟩
  · intro q hq
    rw [hrecorded] at hq
    obtain ⟨p, -, rfl⟩ := List.mem_map.1 hq
    rfl
  · have hsame : (c.run ds).wanted c.outbox.queue = c.wanted c.outbox.queue := by
      simp only [wanted, isCancelled, run_cancelled_eq hkept]
    exact hmost.antisymm (hsame ▸ hleast)

/-! ## In any run -/

/-- **A request whose reply is given up is never handed over again**, wherever it is at that moment
and whatever happens then: no later history has it behind what was on record. Nothing but itself is
thrown away or taken off the table. And whenever a queue is emptied without a failure, the history
tells that all were handed over that somebody waits for. -/
theorem cancelled_unsent (config : Config) (session : Session) (jar : Jar) (events es : List Event)
    (n : ReqSeq) :
    Unsent n (((start config session jar).run events).step (.cancel n)) es ∧
    Unwanted n ((((start config session jar).run events).step (.cancel n)).run es) ∧
    ∀ connection ds, Empties ((start config session jar).run events) connection ds →
      Swept ((start config session jar).run events) connection ds := by
  have hreach := ((reachable_start config session jar).run events).step (.cancel n)
  have hgiven : n ∈ (((start config session jar).run events).step (.cancel n)).cancelled :=
    List.mem_cons_self
  exact ⟨unsent_of_cancelled hgiven es,
    unwanted_of_cancelled (hreach.run es) (run_cancelled hgiven es),
    fun connection ds hempties => swept_of_empties hempties⟩

/-- Three requests are transmitted, and their connection is lost. -/
def threeLost : List Event :=
  transmission ++ [.send "/b" .empty .raw, .finish 2, .command, .next, .taken, .next,
    .send "/c" .empty .raw, .finish 3, .command, .next, .taken, .next, .closed false]

/-- The reply of the second request is given up before the next connection opens. -/
def secondLeft : List Event := threeLost ++ [.cancel 2, .retry, .connected]

/-- The queue is emptied into a connection that takes two requests. -/
def twoTaken : List Event := [.next, .taken, .next, .next, .taken, .next]

/-- The next connection is handed the first request and the third. -/
theorem cancelled_unsent_between :
    (fresh.run secondLeft).outbox.queue.map (·.seq) = [1, 2, 3] ∧
      ((fresh.run secondLeft).handedIn twoTaken).map (·.2.seq) = [1, 3] ∧
      ∀ es, Unsent 2 ((fresh.run threeLost).step (.cancel 2)) es := by
  have hqueue : (fresh.run secondLeft).outbox.queue.map (·.seq) = [1, 2, 3] := by decide +kernel
  have hlink : (fresh.run secondLeft).link = .draining 1 := by decide +kernel
  have hempties : Empties (fresh.run secondLeft) 1 twoTaken :=
    ⟨by rw [hlink]; rfl, by rw [hlink]; rfl, by decide +kernel, by decide +kernel⟩
  have hswept : Swept (fresh.run secondLeft) 1 twoTaken :=
    (cancelled_unsent .standard (.new "sid") .empty secondLeft [] 2).2.2 1 twoTaken hempties
  have hhanded := hswept.exact_eq fun m => by simp [twoTaken]
  have hwanted : ((fresh.run secondLeft).wanted (fresh.run secondLeft).outbox.queue).map (·.seq) =
      [1, 3] := by
    decide +kernel
  refine ⟨hqueue, ?_, fun es => (cancelled_unsent .standard (.new "sid") .empty threeLost es 2).1⟩
  rw [← hwanted, ← hhanded, List.map_map]
  rfl

end Client

end Courier

import Courier.Proofs.CleanClose
import Courier.Proofs.Rotation

/-!
# What a rotation does not stop

After a rotation no handshake starts, but requests are still handed over: to the connection that
is up, or to the one that the handshake under way leads to. The loop looks at the session before
it dials, and never before it hands a request over.

* `handedIn_prospect`: a rotation leaves one connection at most.
* `queued_handed`: **a queued request is handed over** once the loop has emptied the queue.
* `rotation_remainder`: both together, for any run after a rotation.
* `transmitted_after_rotation`: it does happen.
-/

namespace Courier.Client

variable {c c' : Client} {e : Event} {r : Request}

/-- The connection that is up, or that the handshake under way leads to. -/
def prospect (c : Client) : Option Nat :=
  match c.link with
  | .connecting _ => some c.connections
  | link => link.connection?

/-! ## Where requests go -/

/-- **After a rotation there is no new prospect.** -/
theorem Transition.prospect_cases (h : Transition c e c') (hr : c.session.rotated = true) :
    c'.prospect = c.prospect ∨ c'.prospect = none := by
  cases h with
  -- Both would need a check that passes.
  | queuedDialled r rest session hl hi hc hs | redialled secs session hl hs =>
    simp [Session.not_rotated_of_check hs] at hr
  | queuedRotated | halted | ended | rotated => exact .inr rfl
  | queuedOpen r rest connection hl => exact .inl (by simp [prospect, hl, Link.connection?])
  | connected cookies hl => exact .inl (by simp [prospect, hl, Link.connection?])
  | drained connection hl => exact .inl (by simp [prospect, hl, Link.connection?])
  | handed connection r rest hl => exact .inl (by simp [prospect, hl, Link.connection?])
  | taken connection r hl => exact .inl (by simp [prospect, hl, Link.connection?])
  | _ => exact .inl rfl

/-- Nor is there over a run. -/
theorem run_prospect (hr : c.session.rotated = true) (es : List Event) :
    (c.run es).prospect = c.prospect ∨ (c.run es).prospect = none := by
  induction es generalizing c with
  | nil => exact .inl rfl
  | cons e es ih =>
    have ht := step_transition c e
    rcases ih (ht.rotated_of_rotated hr) with hsame | hnone
    · rw [run_cons, hsame]
      exact ht.prospect_cases hr
    · exact .inr hnone

/-- **After a rotation requests go to one connection at most.** -/
theorem handedIn_prospect (hr : c.session.rotated = true) (es : List Event) :
    ∀ q ∈ c.handedIn es, c.prospect = some q.1 := by
  intro q hq
  obtain ⟨before, after, rfl, hl, -⟩ := mem_handedIn.1 hq
  have hprospect : (c.run before).prospect = some q.1 := by simp [prospect, hl, Link.connection?]
  rcases run_prospect hr before with hsame | hnone
  · exact hsame ▸ hprospect
  · rw [hnone] at hprospect
    cases hprospect

/-! ## What is handed over -/

/-- **There are few ways out of the queue**: to a connection, by a command to clear, because nobody
waits, and when the client gives up for good. -/
theorem Transition.leaves_queue (h : Transition c e c') (hv : c.outbox.Valid)
    (hclear : c.takes e ≠ some .clear) (hq : r ∈ c.outbox.queue) :
    r ∈ c'.outbox.queue ∨ (∃ connection, c.hands e = some (connection, r)) ∨
      r.seq ∈ c.cancelled ∨ c'.Dead := by
  cases h with
  | queuedOpen q rest connection hl hi hc => exact .inl (List.mem_append_left _ hq)
  | queuedLater q rest hl hi hc => exact .inl (List.mem_append_left _ hq)
  | queuedDialled q rest session hl hi hc hs => exact .inl (List.mem_append_left _ hq)
  | queuedRotated q rest session hl hi hc hs =>
    exact .inr (.inr (.inr ⟨rfl, .inr (Session.rotated_of_check hs)⟩))
  | rotated secs session hl hs =>
    exact .inr (.inr (.inr ⟨rfl, .inr (Session.rotated_of_check hs)⟩))
  | halted => exact .inr (.inr (.inr ⟨rfl, .inl ⟨rfl, rfl⟩⟩))
  | cleared rest hb hi => exact absurd (by simp [takes, hb, hi]) hclear
  | ended e clean he =>
    refine .inl ?_
    show r ∈ Outbox.queue (if _ then _ else _)
    split
    · exact List.mem_append_right _ hq
    · exact hq
  | answered b connection seq outcome q outbox hl hj ht =>
    obtain ⟨before, stamp, after, heq, rfl, -⟩ := hv.take?_eq_some ht
    exact .inl hq
  | skipped connection q rest hl hqueue hc =>
    rw [hqueue] at hq
    rcases List.mem_cons.1 hq with rfl | hrest
    · exact .inr (.inr (.inl (by simpa [isCancelled] using hc)))
    · exact .inl hrest
  | handed connection q rest hl hqueue hc =>
    have hhands : c.hands .next = some (connection, q) :=
      hands_eq_some_iff.2 ⟨rfl, hl, by simp [hqueue], hc⟩
    rw [hqueue] at hq
    rcases List.mem_cons.1 hq with rfl | hrest
    · exact .inr (.inl ⟨connection, hhands⟩)
    · exact .inl hrest
  | _ => exact .inl hq

/-- **A queued request is handed over** once the loop has emptied the queue, unless it was cleared
or nobody waits for it. -/
theorem queued_handed {connection : Nat} {es : List Event} (hc : c.Reachable)
    (hq : r ∈ c.outbox.queue) (hclear : .clear ∉ c.along takes es)
    (hopen : (c.run es).link = .opened connection) :
    (∃ q ∈ c.handedIn es, q.2 = r) ∨ r.seq ∈ (c.run es).cancelled := by
  rw [handedIn_eq]
  induction es generalizing c with
  | nil =>
    have hempty := (reachable_steady hc).opened connection hopen
    simp [hempty] at hq
  | cons e es ih =>
    simp only [along, List.mem_append, Option.mem_toList, not_or] at hclear ⊢
    have ht := step_transition c e
    rcases ht.leaves_queue (reachable_valid hc) hclear.1 hq with
      hstays | ⟨k, hhands⟩ | hcancelled | hdead
    · refine (ih (hc.step e) hstays hclear.2 hopen).imp ?_ id
      rintro ⟨q, hmem, heq⟩
      exact ⟨q, .inr hmem, heq⟩
    · exact .inl ⟨(k, r), .inl hhands, rfl⟩
    · exact .inr (run_cancelled hcancelled (e :: es))
    · -- A client that gave up is never open again.
      obtain ⟨hlink, -⟩ := run_keeps (P := Dead) (fun hd ht => ht.dead hd) hdead es
      rw [run_cons, hlink] at hopen
      cases hopen

/-- What a client that knows of a rotation hands over in a run. -/
structure Remainder (c : Client) (es : List Event) : Prop where
  /-- It all goes to the connection that is up, or that the handshake under way leads to. -/
  destination : ∀ q ∈ c.handedIn es, c.prospect = some q.1
  /-- Whatever is in the queue goes there, once the loop listens to a connection again, unless it
  is cleared or nobody waits for it. -/
  handed : ∀ r ∈ c.outbox.queue, ∀ connection, (c.run es).link = .opened connection →
    .clear ∉ c.along takes es →
    (∃ q ∈ c.handedIn es, q.2 = r) ∨ r.seq ∈ (c.run es).cancelled

/-- **A rotation does not stop what has a connection**, whatever was queued before it and whatever
is queued later: no connection is added, and the last one is handed the whole queue. -/
theorem rotation_remainder (hc : c.Reachable) (hr : c.session.rotated = true)
    (events es : List Event) : Remainder (c.run events) es where
  destination := handedIn_prospect (run_rotated hr events) es
  handed _ hq _ hopen hclear := queued_handed (hc.run events) hq hclear hopen

/-- A client with a handshake under way that presented the session `1`, and a request in the
queue. Somebody else began the session `2`, which the next call noticed. -/
def overtaken : Client :=
  (start .standard (.new "sid") (Jar.empty.insert "sid" "1")).run
    [.send "/a" .empty .raw, .finish 1, .command, .foreign (·.insert "sid" "2"),
      .send "/b" .empty .raw]

/-- **It does happen**: the request is handed over although the rotation is known. -/
theorem transmitted_after_rotation :
    overtaken.session.rotated = true ∧
      (overtaken.handedIn [.connected, .next]).map (fun q => (q.1, q.2.seq)) = [(0, 1)] := by
  decide +kernel

/-- The handshake leads to the connection that the request is handed to. -/
theorem rotation_remainder_overtaken :
    ∃ q ∈ overtaken.handedIn [.connected, .next, .taken, .next],
      q.2.seq = 1 ∧ overtaken.prospect = some q.1 := by
  have hreachable : overtaken.Reachable := (reachable_start _ _ _).run _
  have hrotated : overtaken.session.rotated = true := by decide +kernel
  have h := rotation_remainder hreachable hrotated [] [.connected, .next, .taken, .next]
  have hqueue : overtaken.outbox.queue.map (·.seq) = [1] := by decide +kernel
  have hopen : (overtaken.run [.connected, .next, .taken, .next]).link = .opened 0 := by
    decide +kernel
  have hclear : .clear ∉ overtaken.along takes [.connected, .next, .taken, .next] := by
    decide +kernel
  have hwaited : (overtaken.run [.connected, .next, .taken, .next]).cancelled = [] := by
    decide +kernel
  obtain ⟨r, hr, hseq⟩ := List.mem_map.1 (hqueue ▸ List.mem_singleton_self 1)
  rcases h.handed r hr 0 hopen hclear with ⟨q, hq, heq⟩ | hcancelled
  · exact ⟨q, hq, heq ▸ hseq, h.destination q hq⟩
  · rw [run_nil, hwaited] at hcancelled
    cases hcancelled

end Courier.Client

import Courier.Proofs.Correlation
import Courier.Proofs.Mirror

/-!
# Lost connections do not show

Whatever connections do, a request that is settled gets the outcome that it would have got over a
single connection that is never lost, and it is settled once.

* `Follows`: a run over a single connection that follows another run event by event.
* `follows_run`: **every undisturbed run is followed by such a run.**
* `recovery_transparent`: so it settles what that run settles, and all of these settle a request
  alike.
-/

namespace Courier.Client

variable {c c' d : Client} {e : Event} {es fs gs : List Event} {server : Server} {config : Config}
  {cookieName : String} {jar : Jar}

/-- **Whatever happens to the first client, the second one follows.** -/
theorem Mirrors.step {issued issued' : List ReqSeq} {given given' : Nat} (h : Mirrors c d)
    (e : Event) (hconserved : Conserved issued' given' c) (hd : Conserved issued given d)
    (hsc : c.Steady) (hsd : d.Steady) (hc : (c.step e).Calm) (hclear : c.takes e ≠ some .clear) :
    ∃ gs, Echo c d e gs ∧ Mirrors (c.step e) (d.run gs) := by
  cases he : e.isApplication with
  | true => exact ⟨[e], h.echo_application he hc, h.application he hc⟩
  | false =>
    by_cases hne : ∃ b, e = .received b
    · obtain ⟨b, rfl⟩ := hne
      exact h.received b hsc hsd hc
    · exact h.loop (step_transition c e) he (fun b hb => hne ⟨b, hb⟩) hconserved hd hc hclear

/-- The run `fs` over a single connection follows the run `es` of a client: the application does
the same, the loop receives the same, and of the answers those come in that settle something. -/
structure Follows (server : Server) (c : Client) (es fs : List Event) : Prop where
  application : fs.filter Event.isApplication = es.filter Event.isApplication
  mirrors : Mirrors (c.run es) (c.run fs)
  lossless : ∀ f ∈ fs, f.isLoss = false
  allocates_eq : c.along allocates fs = c.along allocates es
  receives_eq : c.along receives fs = c.along receives es
  uncleared : .clear ∉ c.along takes fs
  answers : ∀ p ∈ c.along hears fs,
    (∃ r ∈ p.2, server r.frame = some p.1) ∨ ∀ n, ¬ Addresses p.1 n
  answered_once : (c.along hears fs).Pairwise fun p q => ∀ n, Addresses p.1 n → ¬ Addresses q.1 n
  /-- Whatever was answered is settled, so no other answer to it is needed. -/
  settled : ∀ p ∈ c.along hears fs, ∀ n, Addresses p.1 n → n ∈ (c.run fs).numbersAt .settled

theorem follows_start (server : Server) (config : Config) (cookieName : String) (jar : Jar) :
    Follows server (start config (.new cookieName) jar) [] [] where
  application := rfl
  mirrors := mirrors_start config cookieName jar
  lossless _ h := by cases h
  allocates_eq := rfl
  receives_eq := rfl
  uncleared h := by cases h
  answers _ h := by cases h
  answered_once := .nil
  settled _ h := by cases h

/-- What the second client hears is an answer to what it has transmitted, and the first one. -/
theorem Echo.heard {issued : List ReqSeq} {given : Nat} (h : Echo c d e gs) (hm : Mirrors c d)
    (hd : Conserved issued given d) (hreach : d.Reachable)
    (hanswer : ∀ b connection r, e = .received b → c.link = .opened connection → r ∈ c.inFlight →
      Addresses b r.seq → server r.frame = some b) :
    ∀ p ∈ d.along Client.hears gs,
      ((∃ r ∈ p.2, server r.frame = some p.1) ∨ ∀ n, ¬ Addresses p.1 n) ∧
      d.along Client.hears gs = [p] ∧
      ∀ n, Addresses p.1 n → n ∉ d.numbersAt .settled ∧ n ∈ (d.run gs).numbersAt .settled := by
  intro p hp
  rcases h.hears with hnone | ⟨b, rfl, rfl, ⟨connection, hl⟩, hwhat⟩
  · rw [hnone] at hp
    cases hp
  have hld := (hm.phase.connected (by rw [hl]; rfl)).1
  have hheard : d.along Client.hears [.received b] = [(b, d.handOvers.map (·.2))] := by
    simp [along, Client.hears, hld]
  rw [hheard] at hp ⊢
  obtain rfl := List.mem_singleton.1 hp
  rcases hwhat with hmessage | ⟨r, hrc, hrd, haddressed, hsettled⟩
  · exact ⟨.inr hmessage, rfl, fun n hn => absurd hn (hmessage n)⟩
  · have htransmitted := (reachable_transmitted hreach).subset hrd
    refine ⟨.inl ⟨r, List.mem_dedup.1 htransmitted, hanswer b connection r rfl hl hrc haddressed⟩,
      rfl, fun n hn => ?_⟩
    obtain rfl := haddressed.unique hn
    refine ⟨fun hmem => ?_, hsettled⟩
    -- A request that awaits an answer is not settled.
    have hawaiting : r.seq ∈ d.numbersAt .awaiting := by
      obtain ⟨x, hx, rfl⟩ := List.mem_map.1 hrd
      exact List.mem_map.2 ⟨x, hx, hd.valid.keyed x hx⟩
    cases hd.not_two_places hmem hawaiting

/-- One event more is followed by the events that answer it. -/
theorem Follows.concat {issued : List ReqSeq} {given : Nat} (h : Follows server c es fs)
    (hecho : Echo (c.run es) (c.run fs) e gs) (hm : Mirrors ((c.run es).step e) ((c.run fs).run gs))
    (hd : Conserved issued given (c.run fs)) (hreach : (c.run fs).Reachable)
    (hanswer : ∀ b connection r, e = .received b → (c.run es).link = .opened connection →
      r ∈ (c.run es).inFlight → Addresses b r.seq → server r.frame = some b) :
    Follows server c (es ++ [e]) (fs ++ gs) := by
  have hheard := hecho.heard h.mirrors hd hreach hanswer
  refine ⟨?_, ?_, ?_, ?_, ?_, ?_, ?_, ?_, ?_⟩
  · rw [List.filter_append, List.filter_append, h.application, hecho.application]
  · rw [run_append, run_append]
    exact hm
  · intro f hf
    exact (List.mem_append.1 hf).elim (h.lossless f) (hecho.lossless f)
  · rw [along_append, along_append, h.allocates_eq, hecho.allocates_eq, along, along,
      List.append_nil]
  · rw [along_append, along_append, h.receives_eq, hecho.receives_eq, along, along,
      List.append_nil]
  · rw [along_append]
    exact fun hclear => (List.mem_append.1 hclear).elim h.uncleared hecho.uncleared
  · intro p hp
    rw [along_append] at hp
    exact (List.mem_append.1 hp).elim (h.answers p) fun hp => (hheard p hp).1
  · rw [along_append]
    refine List.pairwise_append.2 ⟨h.answered_once, ?_, fun p hp q hq n hn hn' => ?_⟩
    · cases hnew : (c.run fs).along Client.hears gs with
      | nil => exact .nil
      | cons p rest =>
        have hone := (hheard p (by rw [hnew]; exact List.mem_cons_self)).2.1
        rw [hnew] at hone
        rw [hone]
        exact List.pairwise_singleton _ _
    · exact ((hheard q hq).2.2 n hn').1 (h.settled p hp n hn)
  · intro p hp n hn
    rw [along_append] at hp
    rw [run_append]
    rcases List.mem_append.1 hp with hp | hp
    · exact settled_run (h.settled p hp n hn) gs
    · exact ((hheard p hp).2.2 n hn).2

/-- **Every undisturbed run is followed by a run over a single connection.** -/
theorem follows_run (hu : Undisturbed (start config (.new cookieName) jar) es)
    (hs : Serves server (start config (.new cookieName) jar) es)
    (hfew : ((start config (.new cookieName) jar).along allocates es).length < 2 ^ 64) :
    ∃ fs, Follows server (start config (.new cookieName) jar) es fs := by
  induction es using List.reverseRecOn with
  | nil => exact ⟨[], follows_start server config cookieName jar⟩
  | append_singleton es e ih =>
    have hreach := reachable_start config (.new cookieName) jar
    have hstart := conserved_start config (.new cookieName) jar
    have hshort := along_length_le_append (f := allocates) (start config (.new cookieName) jar)
      es [e]
    obtain ⟨fs, hfs⟩ := ih hu.of_append hs.of_append (by omega)
    have hc := hstart.run es (by omega)
    have hd := hstart.run fs (by rw [hfs.allocates_eq]; omega)
    have hclear : ((start config (.new cookieName) jar).run es).takes e ≠ some .clear :=
      fun hclear => hu.uncleared (mem_along.2 ⟨es, e, [], rfl, hclear⟩)
    have hcalm := hu.calm
    rw [run_append, run_cons, run_nil] at hcalm
    obtain ⟨gs, hecho, hm⟩ := hfs.mirrors.step e hc hd (reachable_steady (hreach.run es))
      (reachable_steady (hreach.run fs)) hcalm hclear
    refine ⟨fs ++ gs, hfs.concat hecho hm hd (hreach.run fs) ?_⟩
    rintro b connection r rfl hl hr haddressed
    exact answer_of_inFlight hs (hstart.receives_nodup (by omega)) hl hr haddressed

/-- What recovery looks like to an application that ran the events `es` against a server. -/
structure Transparent (server : Server) (c : Client) (es : List Event) : Prop where
  /-- No request is settled twice. -/
  once : ((c.run es).outcomes.map (·.1)).Nodup
  /-- Over a single connection that is never lost the same requests come to the same. -/
  reliable : ∃ fs, fs.filter Event.isApplication = es.filter Event.isApplication ∧
    Undisturbed c fs ∧ Reliable server c fs ∧ (c.run fs).outcomes = (c.run es).outcomes
  /-- Whenever else a request is settled, over whatever connections, it comes to the same. -/
  unique : ∀ fs, fs.filter Event.isApplication = es.filter Event.isApplication →
    Undisturbed c fs → Serves server c fs → ∀ n o o', (n, o) ∈ (c.run es).outcomes →
      (n, o') ∈ (c.run fs).outcomes → o' = o

/-- A run that follows another one over a single connection is reliable. -/
theorem Follows.reliable (h : Follows server c es fs) (hs : Serves server c es) :
    Reliable server c fs where
  addresses r hr := hs.addresses r (h.receives_eq ▸ hr)
  answers := h.answers
  lossless := h.lossless
  single := h.mirrors.phase.connections_le
  answered_once := h.answered_once

/-- **Lost connections do not show.** After any run that nothing but connections disturbs, and that
gives fewer than `2 ^ 64 - 1` numbers, no request was settled twice, and each that was settled got
the outcome that it gets over a single connection that is never lost. -/
theorem recovery_transparent (server : Server) (config : Config) (cookieName : String) (jar : Jar)
    (es : List Event) (hu : Undisturbed (start config (.new cookieName) jar) es)
    (hs : Serves server (start config (.new cookieName) jar) es)
    (hfew : ((start config (.new cookieName) jar).along allocates es).length < 2 ^ 64 - 1) :
    Transparent server (start config (.new cookieName) jar) es where
  once := by
    have hconserved := (conserved_start config (.new cookieName) jar).run es (by omega)
    rw [map_fst_outcomes]
    exact hconserved.nodup_at .settled
  reliable := by
    obtain ⟨fs, hfs⟩ := follows_run hu hs (by omega)
    have hm := hfs.mirrors
    exact ⟨fs, hfs.application, ⟨⟨hm.trails.unrotated, hm.running, hm.uncancelled⟩, hfs.uncleared⟩,
      hfs.reliable hs, hm.outcomes_eq⟩
  unique fs hsame hu' hs' n o o' ho ho' :=
    outcome_unique hu hs (by omega) hu' hs' hsame ho ho'

/-- A server that answers one request. -/
def answering : Server := fun frame =>
  if frame = requestFrame Config.standard.version 1 "/a" .nil none then some (answerTo 1) else none

/-- A request is transmitted twice and answered twice. -/
def lostOnce : List Event := transmission ++
  [.closed false, .retry, .connected, .next, .taken, .next, .received (answerTo 1),
    .received (answerTo 1)]

/-- It is settled once, as it is when its connection is not lost. -/
theorem recovery_transparent_lost :
    (fresh.run lostOnce).outcomes = [(1, .ok (.raw .nil))] ∧
    ∃ fs, Reliable answering fresh fs ∧ (fresh.run fs).outcomes = [(1, .ok (.raw .nil))] := by
  have hseq : ∀ r ∈ fresh.along receives lostOnce, r.seq = 1 := by decide +kernel
  have haddressed : Addresses (answerTo 1) 1 := by
    have hheader : (Inbound.decode? (answerTo 1)).map (fun f => (f.header.kind, f.header.reqSeq))
        = some (2, some 1) := by decide +kernel
    obtain ⟨f, hf, hkind⟩ := Option.map_eq_some_iff.1 hheader
    obtain ⟨hk, hn⟩ := Prod.ext_iff.1 hkind
    exact ⟨f, hf, by rw [show f.header.kind = 2 from hk]; decide, hn⟩
  have hs : Serves answering fresh lostOnce := by
    refine ⟨fun r hr b hb => ?_, fun p hp => .inl ?_⟩
    · rw [answering] at hb
      split at hb
      · rw [hseq r hr, ← Option.some.inj hb]
        exact haddressed
      · cases hb
    · revert p
      decide +kernel
  have hu : Undisturbed fresh lostOnce :=
    ⟨⟨by decide +kernel, by decide +kernel, by decide +kernel⟩, by decide +kernel⟩
  have houtcomes : (fresh.run lostOnce).outcomes = [(1, .ok (.raw .nil))] := by rfl
  obtain ⟨fs, -, -, hreliable, hsame⟩ := (recovery_transparent answering .standard "sid" .empty
    lostOnce hu hs (Nat.lt_of_le_of_lt (along_length_le _ _) (by decide))).reliable
  exact ⟨houtcomes, fs, hreliable, hsame.trans houtcomes⟩

end Courier.Client

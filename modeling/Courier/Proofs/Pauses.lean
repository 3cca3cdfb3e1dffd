import Courier.Proofs.Continuity
import Courier.Proofs.Replay
import Mathlib.Data.List.Induction

/-!
# Pauses between attempts

When a connection or an attempt to connect ends, the next attempt waits. The first pause after an
open is one second, and each further one is twice as long as the last, up to the longest delay of
the settings. Nothing but the end of a pause starts the next attempt, and nothing but a rotation or
the end of the loop keeps it from starting.

* `Backoff.toNat_escalateWordBy`: pauses can be counted in words of 64 bits, where doubling stops
  at the largest.
* `run_backoff`: **the backoff counts the failures since the last open.**
* `awaits_of_waiting`: what can happen to a client that pauses.
* `World.due_live`: the pause ends so many seconds after it began.
* `pauses_double`: **how a client pauses**, over every run.
-/

namespace Courier

/-! ## In words of 64 bits -/

namespace Backoff

/-- Twice as many seconds, or as many as a word can count. -/
def saturatingDouble (secs : UInt64) : UInt64 :=
  if 2 * secs.toNat < 2 ^ 64 then 2 * secs else .ofNat (2 ^ 64 - 1)

/-- The seconds after a failure, from those before it. -/
def escalateWord (ceiling secs : UInt64) : UInt64 :=
  if secs = 0 then 1 else min (saturatingDouble secs) ceiling

/-- So many failures in a row. -/
def escalateWordBy (ceiling : UInt64) : Nat → UInt64
  | 0 => 0
  | n + 1 => escalateWord ceiling (escalateWordBy ceiling n)

theorem toNat_saturatingDouble (secs : UInt64) :
    (saturatingDouble secs).toNat = min (2 * secs.toNat) (2 ^ 64 - 1) := by
  unfold saturatingDouble
  split
  · rename_i h
    rw [UInt64.toNat_mul, UInt64.toNat_ofNat, Nat.mod_eq_of_lt h]
    omega
  · rename_i h
    have hlargest : (UInt64.ofNat (2 ^ 64 - 1)).toNat = 2 ^ 64 - 1 := rfl
    omega

theorem toNat_escalateWord (ceiling secs : UInt64) :
    (escalateWord ceiling secs).toNat = (escalate ⟨secs.toNat, ceiling.toNat⟩).secs := by
  have hceiling := ceiling.toNat_lt
  have hdouble := toNat_saturatingDouble secs
  simp only [escalateWord, escalate]
  by_cases hzero : secs = 0
  · simp [hzero]
  · have hne : ¬ secs.toNat = 0 := fun h => hzero (UInt64.toNat_inj.1 h)
    rw [if_neg hzero, if_neg hne]
    -- The largest word is no less than the ceiling, so that it makes no difference.
    show (if _ ≤ _ then _ else _ : UInt64).toNat = _
    simp only [UInt64.le_iff_toNat_le]
    split <;> omega

/-- **Counting in words loses nothing**, as no ceiling is above the largest word. -/
theorem toNat_escalateWordBy (ceiling : UInt64) (n : Nat) :
    (escalateWordBy ceiling n).toNat = (escalateBy ⟨0, ceiling.toNat⟩ n).secs := by
  induction n with
  | zero => rfl
  | succ n ih =>
    have hn : escalateBy ⟨0, ceiling.toNat⟩ n =
        ⟨(escalateWordBy ceiling n).toNat, ceiling.toNat⟩ := by
      rw [ih]
      exact congrArg (Backoff.mk _) (ceiling_escalateBy _ n)
    rw [escalateWordBy, toNat_escalateWord, escalateBy, hn]

end Backoff

/-- Whether a handshake is under way or a connection is up. -/
def Link.isEngaged : Link → Bool
  | .disconnected | .waiting _ => false
  | _ => true

namespace Client

variable {c c' : Client} {e : Event} {es : List Event} {secs : Nat}

/-! ## Failures in a row -/

/-- What an event does to the link, as far as pauses are concerned. -/
inductive Shift where
  /-- A handshake succeeds. -/
  | opened
  /-- A handshake fails, a connection closes or a request cannot be handed over. -/
  | ended
deriving DecidableEq

/-- The shift that an event brings; one that does not fit the link brings none. -/
def shifts (c : Client) : Event → Option Shift
  | .connected => match c.link with
    | .connecting _ => some .opened
    | _ => none
  | .refused => match c.link with
    | .connecting _ => some .ended
    | _ => none
  | .closed _ => match c.link with
    | .opened _ => some .ended
    | _ => none
  | .broken => match c.link with
    | .sending _ _ => some .ended
    | _ => none
  | _ => none

/-- How often a connection or an attempt ended since the last open, or since the start. -/
def setbacks (c : Client) (es : List Event) : Nat :=
  ((c.along shifts es).reverse.takeWhile (· = .ended)).length

/-- What a shift does to the backoff. -/
def Shift.escalates : Option Shift → Backoff → Backoff
  | none, b => b
  | some .opened, b => b.reset
  | some .ended, b => b.escalate

theorem setbacks_concat (c : Client) (es : List Event) (e : Event) :
    c.setbacks (es ++ [e]) = match (c.run es).shifts e with
      | none => c.setbacks es
      | some .opened => 0
      | some .ended => c.setbacks es + 1 := by
  cases h : (c.run es).shifts e with
  | none => simp [setbacks, along_append, along, h]
  | some shift => cases shift <;> simp [setbacks, along_append, along, h]

theorem shifts_eq_opened_iff :
    c.shifts e = some .opened ↔ e = .connected ∧ ∃ cookies, c.link = .connecting cookies := by
  cases e <;> simp only [shifts, reduceCtorEq, false_and]
  all_goals cases c.link <;> simp

theorem shifts_eq_ended_iff : c.shifts e = some .ended ↔ ∃ clean, c.Ends e clean := by
  constructor
  · intro h
    cases e with
    | refused =>
      cases hl : c.link with
      | connecting cookies => exact ⟨false, .refused cookies hl⟩
      | _ => simp [shifts, hl] at h
    | closed clean =>
      cases hl : c.link with
      | opened connection => exact ⟨clean, .closed connection clean hl⟩
      | _ => simp [shifts, hl] at h
    | broken =>
      cases hl : c.link with
      | sending connection r => exact ⟨false, .broken connection r hl⟩
      | _ => simp [shifts, hl] at h
    | connected => cases hl : c.link <;> simp [shifts, hl] at h
    | _ => cases h
  · rintro ⟨clean, he⟩
    cases he <;> simp [shifts, *]

/-- An end plans the next attempt. -/
theorem step_ended (h : c.shifts e = some .ended) :
    (c.step e).backoff = c.backoff.escalate ∧
      (c.step e).link = .waiting c.backoff.escalate.secs := by
  obtain ⟨clean, he⟩ := shifts_eq_ended_iff.1 h
  have hstep : c.step e = c.disconnect clean := by cases he <;> simp only [step, *]
  rw [hstep, disconnect_eq clean (by cases he <;> simp_all)]
  exact ⟨rfl, rfl⟩

/-- Everything else leaves the backoff as it is. -/
theorem Transition.backoff_eq (h : Transition c e c') (hs : c.shifts e = none) :
    c'.backoff = c.backoff := by
  cases h with
  | connected cookies hl => simp [shifts, hl] at hs
  | ended e clean he =>
    rw [shifts_eq_ended_iff.2 ⟨clean, he⟩] at hs
    cases hs
  | _ => rfl

/-- **Only opens and ends count.** -/
theorem step_backoff (c : Client) (e : Event) :
    (c.step e).backoff = Shift.escalates (c.shifts e) c.backoff := by
  cases hs : c.shifts e with
  | none => exact (step_transition c e).backoff_eq hs
  | some shift =>
    cases shift with
    | opened =>
      obtain ⟨rfl, cookies, hl⟩ := shifts_eq_opened_iff.1 hs
      simp only [step, hl, connected, flush, note, Shift.escalates]
    | ended => exact (step_ended hs).1

/-- **The backoff counts the failures since the last open.** -/
theorem run_backoff (config : Config) (session : Session) (jar : Jar) (es : List Event) :
    ((start config session jar).run es).backoff =
      (Backoff.new config.maxBackoff).escalateBy ((start config session jar).setbacks es) := by
  -- The last event decides: it begins the count anew, adds to it or leaves it.
  induction es using List.reverseRecOn with
  | nil => rfl
  | append_singleton es e ih =>
    rw [run_append, run_cons, run_nil, step_backoff, setbacks_concat, ih]
    cases ((start config session jar).run es).shifts e with
    | none => rfl
    | some shift =>
      cases shift with
      | opened => exact congrArg (Backoff.mk 0) (Backoff.ceiling_escalateBy _ _)
      | ended => rfl

/-- Without an open, ends only add up. -/
theorem setbacks_append {fs : List Event} (h : Shift.opened ∉ (c.run es).along shifts fs) :
    c.setbacks (es ++ fs) = ((c.run es).along shifts fs).length + c.setbacks es := by
  have hended : ∀ shift ∈ ((c.run es).along shifts fs).reverse, shift = .ended := by
    intro shift hmem
    cases shift with
    | opened => exact absurd (List.mem_reverse.1 hmem) h
    | ended => rfl
  rw [setbacks, along_append, List.reverse_append,
    List.takeWhile_append_of_pos (by simpa using hended), List.length_append, List.length_reverse,
    setbacks]

/-! ## While the client pauses -/

/-- What the end of a pause leads to. -/
inductive Fires (c : Client) : Prop where
  /-- One handshake starts, and no other one before the next end. -/
  | dialled (hs : (c.session.check c.jar.header).2 = .unchanged)
      (hd : Dials c (c.step .retry) c.jar.header?)
      (honce : ∀ es, Shift.ended ∉ (c.step .retry).along shifts es →
        ((c.step .retry).run es).handshakes = (c.step .retry).handshakes)
  /-- The session was rotated, and no handshake starts ever. -/
  | rotated (hs : (c.session.check c.jar.header).2 = .rotated)
      (hnone : ∀ es, ((c.step .retry).run es).handshakes = c.handshakes)

/-- What can happen to a client that pauses for so many seconds, as long as the pause is not over.
-/
structure Awaits (secs : Nat) (c : Client) : Prop where
  /-- No handshake starts, and the pause goes on unless the loop ends. -/
  idle : ∀ es, .retry ∉ es → (c.run es).handshakes = c.handshakes ∧
    ((c.run es).link = .waiting secs ∨ (c.run es).stopped = true)
  /-- Its end leads to the next attempt, after whatever happened meanwhile. -/
  fires : ∀ es, .retry ∉ es → (c.run es).link = .waiting secs → Fires (c.run es)
  /-- When the loop has ended, there is no further attempt. -/
  final : ∀ es fs, .retry ∉ es → (c.run es).stopped = true →
    ((c.run es).run fs).handshakes = c.handshakes

/-- A dead client starts no handshake. -/
theorem Dead.handshakes_run (hd : c.Dead) (es : List Event) :
    (c.run es).handshakes = c.handshakes := by
  refine (run_keeps (P := fun d => d.Dead ∧ d.handshakes = c.handshakes) ?_ ⟨hd, rfl⟩ es).2
  intro d e d' ⟨hdead, hsame⟩ ht
  refine ⟨ht.dead hdead, ?_⟩
  rcases ht.dials with hundialled | ⟨-, -, hdials⟩
  · exact hundialled.recorded.trans hsame
  · have hlink := (ht.dead hdead).1
    rw [hdials.link_eq] at hlink
    cases hlink

/-- A loop that has ended is dead. -/
theorem dead_of_stopped (h : c.Reachable) (hs : c.stopped = true) : c.Dead := by
  refine h.invariant (P := fun c => c.stopped = true → c.Dead) (fun _ _ _ => nofun) ?_ hs
  intro d e d' hdead ht hs'
  by_cases hs : d.stopped = true
  · exact ht.dead (hdead hs)
  · cases ht with
    | halted => exact ⟨rfl, .inl ⟨rfl, rfl⟩⟩
    | _ => exact absurd hs' hs

/-- **Only its end ends a pause**, unless the loop ends. -/
theorem Transition.waiting (h : Transition c e c') (hl : c.link = .waiting secs)
    (he : e ≠ .retry) : c'.link = .waiting secs ∨ c'.stopped = true := by
  cases h with
  | halted => exact .inr rfl
  | redialled | rotated => exact absurd rfl he
  -- What these react to is another link.
  | queuedOpen | queuedDialled | queuedRotated | connected | drained | handed | taken => simp_all
  | ended e clean hends => cases hends <;> simp_all
  | _ => exact .inl hl

/-- A handshake starts only without a connection or a plan for one, or at the end of a pause. -/
theorem Transition.handshakes_eq (h : Transition c e c') (hl : c.link ≠ .disconnected)
    (he : e ≠ .retry ∨ ∀ secs, c.link ≠ .waiting secs) : c'.handshakes = c.handshakes := by
  cases h with
  | queuedDialled r rest session hlink => exact absurd hlink hl
  | redialled secs session hlink => exact he.elim (absurd rfl) fun hnot => absurd hlink (hnot secs)
  | quiet e jar session handlers held new hnew => simp [handshakes, dialled?_quiet hnew]
  | _ => simp [handshakes, List.filterMap_cons]

/-- **A pause goes on**, whatever happens meanwhile. -/
theorem idle_of_waiting (hc : c.Reachable) (hl : c.link = .waiting secs) (hes : .retry ∉ es) :
    (c.run es).handshakes = c.handshakes ∧
      ((c.run es).link = .waiting secs ∨ (c.run es).stopped = true) := by
  induction es generalizing c with
  | nil => exact ⟨rfl, .inl hl⟩
  | cons e es ih =>
    obtain ⟨he, hes⟩ := not_or.1 (List.mem_cons.not.1 hes)
    have ht := step_transition c e
    have hsame := ht.handshakes_eq (by simp [hl]) (.inl (Ne.symm he))
    rcases ht.waiting hl (Ne.symm he) with hwaiting | hstopped
    · obtain ⟨hrest, hlink⟩ := ih (hc.step e) hwaiting hes
      exact ⟨hrest.trans hsame, hlink⟩
    · -- The loop ended at this event, and it does not run again.
      refine ⟨((dead_of_stopped (hc.step e) hstopped).handshakes_run es).trans hsame, .inr ?_⟩
      by_contra hrunning
      rw [Bool.not_eq_true] at hrunning
      exact absurd hstopped (by simp [running_of_run (c := c.step e) es hrunning])

/-! ## At the end of a pause -/

theorem Transition.engaged (h : Transition c e c') (hl : c.link.isEngaged = true)
    (he : c.shifts e ≠ some .ended) : c'.link.isEngaged = true ∨ c'.Dead := by
  cases h with
  | halted => exact .inr ⟨rfl, .inl ⟨rfl, rfl⟩⟩
  | ended e clean hends => exact absurd (shifts_eq_ended_iff.2 ⟨clean, hends⟩) he
  | queuedRotated r rest session hlink | rotated secs session hlink =>
    simp [hlink, Link.isEngaged] at hl
  | queuedOpen | queuedDialled | connected | redialled | drained | handed | taken => exact .inl rfl
  | _ => exact .inl hl

/-- **A handshake or a connection is the only one** until it ends. -/
theorem handshakes_of_engaged (hl : c.link.isEngaged = true)
    (hes : Shift.ended ∉ c.along shifts es) : (c.run es).handshakes = c.handshakes := by
  induction es generalizing c with
  | nil => rfl
  | cons e es ih =>
    simp only [along, List.mem_append, Option.mem_toList, not_or] at hes
    have ht := step_transition c e
    have hnot : ∀ secs, c.link ≠ .waiting secs := by
      intro secs hlink
      simp [hlink, Link.isEngaged] at hl
    have hsame := ht.handshakes_eq (fun hlink => by simp [hlink, Link.isEngaged] at hl) (.inr hnot)
    rcases ht.engaged hl hes.1 with hengaged | hdead
    · exact (ih hengaged hes.2).trans hsame
    · exact (hdead.handshakes_run es).trans hsame

theorem fires_of_waiting (hl : c.link = .waiting secs) : Fires c := by
  have hstep : c.step .retry = connect { c with link := .disconnected } := by
    simp only [step, hl, retry]
  cases hcheck : c.session.check c.jar.header with
  | mk session status =>
  rw [connect_eq, hcheck] at hstep
  cases status with
  | unchanged =>
    have hdials : Dials c (c.step .retry) c.jar.header? := hstep ▸ ⟨rfl, rfl⟩
    refine .dialled (by rw [hcheck]) hdials fun es hes => handshakes_of_engaged ?_ hes
    rw [hdials.link_eq]
    rfl
  | rotated =>
    have hdead : (c.step .retry).Dead :=
      hstep ▸ ⟨rfl, .inr (Session.rotated_of_check hcheck)⟩
    have hsame : (c.step .retry).handshakes = c.handshakes := by
      rw [hstep]
      simp [handshakes]
    exact .rotated (by rw [hcheck]) fun es => (hdead.handshakes_run es).trans hsame

theorem awaits_of_waiting (hc : c.Reachable) (hl : c.link = .waiting secs) : Awaits secs c where
  idle _ hes := idle_of_waiting hc hl hes
  fires _ _ := fires_of_waiting
  final es fs hes hs :=
    ((dead_of_stopped (hc.run es) hs).handshakes_run fs).trans (idle_of_waiting hc hl hes).1

end Client

/-! ## On the clock -/

namespace World

open Client

variable {w : World} {e : Event} {secs : Nat}

/-- An event at a time. -/
def happenAt (w : World) (p : Nat × Event) : World := happen { w with now := p.1 } p.2

/-- Events at their times. -/
def live (w : World) (ps : List (Nat × Event)) : World := ps.foldl happenAt w

/-- A pause is over at this time: the loop does nothing before it, and then it tries again. -/
structure Rings (due : Nat) (w : World) : Prop where
  due_eq : w.due = due
  turn_eq : ∀ secs, w.client.link = .waiting secs → w.client.inbox = [] →
    w.client.isDeserted = false → w.turn = if due ≤ w.now then some (w.happen .retry) else none

theorem client_live (w : World) (ps : List (Nat × Event)) :
    (w.live ps).client = w.client.run (ps.map (·.2)) := by
  induction ps generalizing w with
  | nil => rfl
  | cons p ps ih => exact ih (w.happenAt p)

/-- A pause is timed from its beginning. -/
theorem due_happen_of_ended (hs : w.client.shifts e = some .ended)
    (hl : (w.client.step e).link = .waiting secs) : (w.happen e).due = w.now + secs * 1000 := by
  obtain ⟨clean, hends⟩ := Client.shifts_eq_ended_iff.1 hs
  simp only [happen, hl]
  cases hends <;> simp [*]

/-- Nothing changes the time after that. -/
theorem due_happen (hl : w.client.link = .waiting secs ∨ w.client.Dead) :
    (w.happen e).due = w.due := by
  rcases hl with hl | hdead
  · simp only [happen, hl]
  · have hlink := ((step_transition w.client e).dead hdead).1
    simp only [happen, hdead.1, hlink]

theorem due_live (hc : w.client.Reachable) (hl : w.client.link = .waiting secs ∨ w.client.Dead)
    {ps : List (Nat × Event)} (hps : .retry ∉ ps.map (·.2)) : (w.live ps).due = w.due := by
  induction ps generalizing w with
  | nil => rfl
  | cons p ps ih =>
    obtain ⟨he, hps⟩ := not_or.1 (List.mem_cons.not.1 hps)
    have hdue : (w.happenAt p).due = w.due := due_happen (w := { w with now := p.1 }) hl
    refine (ih (w := w.happenAt p) (hc.step p.2) ?_ hps).trans hdue
    -- Either the pause goes on, or the loop has ended and nothing is timed any more.
    have ht := step_transition w.client p.2
    rcases hl with hl | hdead
    · exact (ht.waiting hl (Ne.symm he)).imp id (dead_of_stopped (hc.step p.2))
    · exact .inr (ht.dead hdead)

/-- **A pause ends so many seconds after it began.** -/
theorem rings_of_ended (hc : w.client.Reachable) (hs : w.client.shifts e = some .ended)
    (hl : (w.client.step e).link = .waiting secs) {ps : List (Nat × Event)}
    (hps : .retry ∉ ps.map (·.2)) : Rings (w.now + secs * 1000) ((w.happen e).live ps) := by
  have hdue : ((w.happen e).live ps).due = w.now + secs * 1000 :=
    (due_live (hc.step e) (.inl hl) hps).trans (due_happen_of_ended hs hl)
  refine ⟨hdue, fun secs' hlink hinbox hdeserted => ?_⟩
  have hreach : ((w.happen e).live ps).client.Reachable := by
    rw [client_live]
    exact (hc.step e).run _
  have hrunning : ((w.happen e).live ps).client.stopped = false := by
    rw [Bool.eq_false_iff]
    intro hstopped
    rw [(dead_of_stopped hreach hstopped).1] at hlink
    cases hlink
  simp [turn, ownTurn, hrunning, hlink, hinbox, hdeserted, hdue]

end World

namespace Client

/-! ## Over whole runs -/

/-- How a client pauses whose longest delay is as given. -/
structure Pauses (longest : Duration) (c : Client) : Prop where
  /-- After an end, of whatever kind, which comes after so many others in a row. -/
  doubled : ∀ es e, (c.run es).shifts e = some .ended →
    (c.run (es ++ [e])).link = .waiting (min (2 ^ c.setbacks es) longest.secs)
  /-- Words of 64 bits count the same, however many ends there are. -/
  words : ∀ es e ceiling, (c.run es).shifts e = some .ended → ceiling.toNat = longest.secs →
    (c.run (es ++ [e])).link =
      .waiting (Backoff.escalateWordBy ceiling (c.setbacks (es ++ [e]))).toNat
  bounded : ∀ es secs, (c.run es).link = .waiting secs → 1 ≤ secs ∧ secs ≤ longest.secs
  /-- Pauses do not get shorter before there is an open. -/
  rising : ∀ es fs secs secs', (c.run es).link = .waiting secs →
    (c.run (es ++ fs)).link = .waiting secs' → Shift.opened ∉ (c.run es).along shifts fs →
    secs ≤ secs'
  /-- The first pause after an open is one second. -/
  restarted : ∀ es e fs e', (c.run es).shifts e = some .opened →
    (c.run (es ++ [e])).along shifts fs = [] →
    (c.run (es ++ [e] ++ fs)).shifts e' = some .ended →
    (c.run (es ++ [e] ++ fs ++ [e'])).link = .waiting 1
  /-- The next attempt starts at the end of the pause, and no other one does. -/
  awaits : ∀ es secs, (c.run es).link = .waiting secs → Awaits secs (c.run es)
  /-- And that is so many seconds after the pause began. -/
  timed : ∀ (w : World) es e secs ps, w.client = c.run es →
    (c.run es).shifts e = some .ended → (c.run (es ++ [e])).link = .waiting secs →
    .retry ∉ ps.map Prod.snd → World.Rings (w.now + secs * 1000) ((w.happen e).live ps)

/-- After so many failures in a row. -/
theorem secs_escalateBy_new {longest : Duration} (h : 1 ≤ longest.secs) (n : Nat) :
    ((Backoff.new longest).escalateBy (n + 1)).secs = min (2 ^ n) longest.secs := by
  have hceiling : (Backoff.new longest).ceiling = longest.secs := Nat.max_eq_right h
  rw [Backoff.escalate_iterate rfl (by omega), hceiling]

section
variable {config : Config} {session : Session} {jar : Jar}

theorem link_of_ended
    (hs : ((start config session jar).run es).shifts e = some .ended) :
    ((start config session jar).run (es ++ [e])).link = .waiting
      ((Backoff.new config.maxBackoff).escalateBy
        ((start config session jar).setbacks es + 1)).secs := by
  rw [run_append, run_cons, run_nil, (step_ended hs).2, run_backoff, Backoff.escalateBy]

/-- A client pauses as the backoff says, and only after an end. -/
theorem secs_of_waiting (hl : ((start config session jar).run es).link = .waiting secs) :
    ∃ n, (start config session jar).setbacks es = n + 1 ∧
      secs = ((Backoff.new config.maxBackoff).escalateBy (n + 1)).secs := by
  have hreach := (reachable_start config session jar).run es
  have hidle := (reachable_steady hreach).waiting secs hl
  have hsecs := (reachable_paced hreach).waiting secs hl
  rw [run_backoff] at hidle hsecs
  cases hn : (start config session jar).setbacks es with
  | zero =>
    rw [hn] at hidle
    cases hidle
  | succ n => exact ⟨n, rfl, hn ▸ hsecs⟩

/-- **How a client pauses**: for one second after an open, then twice as long each time up to the
longest delay, however often it fails; and it tries again at the end of the pause, not before and
not twice. -/
theorem pauses_double (config : Config) (hvalid : config.isValid = true) (session : Session)
    (jar : Jar) : Pauses config.maxBackoff (start config session jar) := by
  have hpos : 1 ≤ config.maxBackoff.secs := by simpa [Config.isValid] using hvalid
  have hreach := (reachable_start config session jar).run
  have hdoubled : ∀ es e, ((start config session jar).run es).shifts e = some .ended →
      ((start config session jar).run (es ++ [e])).link =
        .waiting (min (2 ^ (start config session jar).setbacks es) config.maxBackoff.secs) := by
    intro es e hs
    rw [link_of_ended hs, secs_escalateBy_new hpos]
  refine ⟨hdoubled, ?words, ?bounded, ?rising, ?restarted,
    fun es _ => awaits_of_waiting (hreach es), ?timed⟩
  case words =>
    intro es e ceiling hs hceiling
    have hnew : Backoff.new config.maxBackoff = ⟨0, ceiling.toNat⟩ :=
      congrArg (Backoff.mk 0) ((Nat.max_eq_right hpos).trans hceiling.symm)
    rw [link_of_ended hs, setbacks_concat, hs, Backoff.toNat_escalateWordBy, hnew]
  case bounded =>
    intro es secs hl
    obtain ⟨n, -, rfl⟩ := secs_of_waiting hl
    have hpow := Nat.two_pow_pos n
    rw [secs_escalateBy_new hpos]
    omega
  case rising =>
    intro es fs secs secs' hl hl' hopened
    obtain ⟨n, hn, rfl⟩ := secs_of_waiting hl
    obtain ⟨n', hn', rfl⟩ := secs_of_waiting hl'
    rw [setbacks_append hopened] at hn'
    -- There were no fewer failures in a row by then.
    have hpow : 2 ^ n ≤ 2 ^ n' := Nat.pow_le_pow_right (by decide) (by omega)
    rw [secs_escalateBy_new hpos, secs_escalateBy_new hpos]
    omega
  case restarted =>
    intro es e fs e' hopened hfs hs
    -- The open began the count anew, and nothing was counted since.
    have hzero : (start config session jar).setbacks (es ++ [e] ++ fs) = 0 := by
      rw [setbacks_append (by simp [hfs]), hfs, setbacks_concat, hopened]
      rfl
    rw [hdoubled _ _ hs, hzero, Nat.pow_zero, Nat.min_eq_left hpos]
  case timed =>
    intro w es e secs ps hw hs hl hps
    refine World.rings_of_ended (hw ▸ hreach es) (hw ▸ hs) ?_ hps
    rw [hw]
    rwa [run_append] at hl

end

/-- Settings whose longest delay is no power of two, and not even whole seconds. -/
def patient : Config := ⟨1, "sid", .ofMillis 3500⟩

/-- A client that pauses six times: three handshakes fail, a connection breaks on the request that
it is handed, the next one closes properly, and the handshake after that fails again. -/
def unlucky : List Event :=
  [.send "/a" .empty .raw, .finish 1, .command, .refused, .retry, .refused, .query, .retry,
    .refused, .command, .retry, .connected, .next, .broken, .retry, .connected, .next, .taken,
    .next, .closed true, .retry, .refused]

/-- Events that start no handshake while the client pauses. -/
def pastime : List Event :=
  [.send "/b" .empty .raw, .finish 2, .command, .clear, .command, .query, .command,
    .updateCookies (·.insert "sid" "1")]

theorem pauses_double_unlucky :
    let c := start patient (.new "sid") .empty
    (c.run unlucky).history.filterMap (fun
        | .ended _ secs => some secs
        | _ => none) = [2, 1, 1, 3, 2, 1] ∧
      (c.run (unlucky ++ [.retry] ++ [.refused])).link = .waiting 3 ∧
      (c.run (unlucky ++ pastime)).link = .waiting 2 ∧
      (c.run (unlucky ++ pastime)).handshakes = (c.run unlucky).handshakes := by
  intro c
  have h : Pauses patient.maxBackoff c := pauses_double patient (by decide) _ _
  have hl : (c.run unlucky).link = .waiting 2 := by decide +kernel
  have hidle := (h.awaits unlucky 2 hl).idle pastime (by simp [pastime])
  have hrunning : ¬ ((c.run unlucky).run pastime).stopped = true := by decide +kernel
  have hended := h.doubled (unlucky ++ [.retry]) .refused (by decide +kernel)
  have hsetbacks : c.setbacks (unlucky ++ [.retry]) = 2 := by decide +kernel
  rw [hsetbacks] at hended
  rw [run_append c unlucky pastime]
  exact ⟨by decide +kernel, hended, hidle.2.resolve_right hrunning, hidle.1⟩

end Client

end Courier

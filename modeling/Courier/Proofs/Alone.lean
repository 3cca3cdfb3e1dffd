import Courier.Proofs.Application
import Mathlib.Data.List.Induction

/-!
# An application on its own

Beside a client stands one on which only the application acts, so that nothing is ever taken from
its inbox and its session never notices anything.

* `alone`: what an application would have done with nothing else going on.
* `draws_run`: **what the loop receives along an undisturbed run is what the application posts on
  its own**, whatever connections do.
* `conserved_alone`: on its own the application gives the same numbers.
-/

namespace Courier.Client

variable {c a : Client} {e : Event} {es : List Event} {config : Config} {received : List Request}

/-- What an event does to an application that has no cookies to lose. -/
def apply (c : Client) (e : Event) : Client :=
  { c.step e with
    jar := .empty
    session := .new "" }

/-- What an application would have done with nothing else going on: no command is taken. -/
def alone (config : Config) (es : List Event) : Client :=
  (es.filter Event.isApplication).foldl apply (start config (.new "") .empty)

theorem alone_concat (config : Config) (es : List Event) (e : Event) :
    alone config (es ++ [e]) =
      if e.isApplication then (alone config es).apply e else alone config es := by
  unfold alone
  rw [List.filter_append, List.foldl_append]
  cases he : e.isApplication <;> simp [he]

/-- A client `a` on which only the application acts, beside a client `c` whose loop received these
requests. -/
structure Draws (received : List Request) (c a : Client) : Prop where
  alike : Alike c a
  session_eq : a.session = .new ""
  running : a.stopped = false
  /-- What the loop has yet to receive is what it has not received of all that was posted. -/
  inbox_eq : requestsOf a.inbox = received ++ requestsOf c.inbox

theorem draws_start (config : Config) (session : Session) (jar : Jar) :
    Draws [] (start config session jar) (alone config []) where
  alike := rfl
  session_eq := rfl
  running := rfl
  inbox_eq := rfl

theorem Draws.smooth (h : Draws received c a) (he : e.isApplication = true) :
    a.Smooth e := by
  refine ⟨h.running, ?_⟩
  rw [application_session he]
  unfold sessionAfter
  rw [h.session_eq]
  cases e with
  | send uri body response =>
    simp only [Session.check_new]
    split <;> rfl
  | updateCookies change =>
    simp only [Session.update, Session.check_new]
    split <;> rfl
  | _ => rfl

/-- What an event of the application adds on its own is what it adds to the client. -/
theorem Draws.together (h : Draws received c a) (he : e.isApplication = true)
    (hc : (c.step e).Calm) : Together c a (c.step e) (a.step e) := by
  have hcalm := (step_transition c e).calm hc
  exact h.alike.application he ⟨hcalm.running, hc.unrotated⟩ (h.smooth he)

theorem Draws.application (h : Draws received c a) (he : e.isApplication = true)
    (hc : (c.step e).Calm) : Draws received (c.step e) (a.apply e) := by
  obtain ⟨halike, ⟨commands, hic, hia⟩, -, -⟩ := h.together he hc
  refine ⟨halike, rfl, ?_, ?_⟩
  · exact ((step_transition a e).stopped_eq he).trans h.running
  · show requestsOf (a.step e).inbox = _
    rw [hia, hic, requestsOf_append, requestsOf_append, h.inbox_eq, List.append_assoc]

/-- **One event keeps an application and its client together.** -/
theorem Draws.step (h : Draws received c (alone config es)) (e : Event) (hc : (c.step e).Calm) :
    Draws (received ++ (c.receives e).toList) (c.step e) (alone config (es ++ [e])) := by
  rw [alone_concat]
  cases he : e.isApplication with
  | true =>
    rw [receives_of_application he, if_pos rfl, Option.toList_none, List.append_nil]
    exact h.application he hc
  | false =>
    have ht := step_transition c e
    rw [if_neg Bool.false_ne_true]
    refine ⟨h.alike.trans (ht.alike he).symm, h.session_eq, h.running, ?_⟩
    rw [h.inbox_eq, ← ht.receives_append he hc.running, List.append_assoc]

/-- **What the loop receives along a run is what the application would have posted on its own.** -/
theorem draws_run (config : Config) (session : Session) (jar : Jar) (es : List Event)
    (hc : ((start config session jar).run es).Calm) :
    Draws ((start config session jar).along receives es) ((start config session jar).run es)
      (alone config es) := by
  induction es using List.reverseRecOn with
  | nil => exact draws_start config session jar
  | append_singleton es e ih =>
    rw [run_append, run_cons, run_nil] at hc ⊢
    have hstep := (ih ((step_transition _ e).calm hc)).step e hc
    rw [along_append]
    simpa [along] using hstep

/-- **On its own the application gives the same numbers**, so it does not mix them up either. -/
theorem conserved_alone (config : Config) (session : Session) (jar : Jar) (es : List Event)
    (hc : ((start config session jar).run es).Calm)
    (hfew : ((start config session jar).along allocates es).length < 2 ^ 64) :
    ∃ issued, Conserved issued ((start config session jar).along allocates es).length
      (alone config es) := by
  induction es using List.reverseRecOn with
  | nil => exact ⟨[], conserved_start config _ _⟩
  | append_singleton es e ih =>
    rw [run_append, run_cons, run_nil] at hc
    rw [along_append, List.length_append] at hfew ⊢
    simp only [along, List.append_nil] at hfew ⊢
    have hcalm := (step_transition _ e).calm hc
    obtain ⟨issued, hconserved⟩ := ih hcalm (by omega)
    rw [alone_concat]
    cases he : e.isApplication with
    | true =>
      have hd := draws_run config session jar es hcalm
      rw [← hd.alike.allocates_eq (hd.together he hc).alike] at hfew ⊢
      have hstep := hconserved.step e hfew
      exact ⟨_, hstep.valid, hstep.tally_eq, hstep.once, hstep.given_of_used, hstep.lastSeq_eq⟩
    | false =>
      rw [allocates_of_loop he]
      exact ⟨issued, hconserved⟩

end Courier.Client

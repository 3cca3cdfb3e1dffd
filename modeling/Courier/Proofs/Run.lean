import Courier.Proofs.Outbox
import Courier.Proofs.Transition

/-!
# Runs as sequences of transitions

* `Reachable.invariant`: **what holds at the start and is kept by every transition holds in
  every reachable client.**
* `run_append`, `along_append`: a run can be cut anywhere.
* `reachable_valid`: the table of a reachable client is keyed, without repetition and ordered.
-/

namespace Courier.Client

variable {c c' : Client} {e : Event} {α : Type} {f : Client → Event → Option α}

@[simp] theorem run_nil (c : Client) : c.run [] = c := rfl

@[simp] theorem run_cons (c : Client) (e : Event) (es : List Event) :
    c.run (e :: es) = (c.step e).run es := rfl

theorem run_append (c : Client) (es fs : List Event) : c.run (es ++ fs) = (c.run es).run fs :=
  List.foldl_append

theorem along_append (c : Client) (es fs : List Event) :
    c.along f (es ++ fs) = c.along f es ++ (c.run es).along f fs := by
  induction es generalizing c with
  | nil => rfl
  | cons e es ih => simp [along, ih]

theorem along_length_le (c : Client) (es : List Event) : (c.along f es).length ≤ es.length := by
  induction es generalizing c with
  | nil => exact Nat.le_refl _
  | cons e es ih =>
    have hone : (f c e).toList.length ≤ 1 := by cases f c e <;> simp
    have := ih (c.step e)
    simp only [along, List.length_append, List.length_cons]
    omega

theorem along_length_le_append (c : Client) (es fs : List Event) :
    (c.along f es).length ≤ (c.along f (es ++ fs)).length := by
  rw [along_append, List.length_append]
  exact Nat.le_add_right _ _

/-- What happened along a run happened at one of its events. -/
theorem mem_along {a : α} {es : List Event} :
    a ∈ c.along f es ↔
      ∃ before e after, es = before ++ e :: after ∧ f (c.run before) e = some a := by
  induction es generalizing c with
  | nil => simp [along]
  | cons e es ih =>
    rw [along, List.mem_append, Option.mem_toList, ih]
    constructor
    · rintro (h | ⟨before, e', after, rfl, h⟩)
      · exact ⟨[], e, es, rfl, h⟩
      · exact ⟨e :: before, e', after, rfl, h⟩
    · rintro ⟨before, e', after, heq, h⟩
      cases before with
      | nil =>
        obtain ⟨rfl, rfl⟩ := List.cons.inj heq
        exact .inl h
      | cons e₀ before =>
        obtain ⟨rfl, rfl⟩ := List.cons.inj heq
        exact .inr ⟨before, e', after, rfl, h⟩

/-- A property that a run brings about is brought about by one of its events. -/
theorem exists_first {P : Client → Prop} {es : List Event} (h₀ : ¬ P c) (h : P (c.run es)) :
    ∃ before e after, es = before ++ e :: after ∧ ¬ P (c.run before) ∧
      P ((c.run before).step e) := by
  induction es generalizing c with
  | nil => exact absurd h h₀
  | cons e es ih =>
    by_cases hP : P (c.step e)
    · exact ⟨[], e, es, rfl, h₀, hP⟩
    · obtain ⟨before, e', after, rfl, hbefore, hafter⟩ := ih hP h
      exact ⟨e :: before, e', after, rfl, hbefore, hafter⟩

/-- A client with the standard settings and no cookies. -/
def fresh : Client := start .standard (.new "sid") .empty

/-- A request is sent, and its connection takes it. -/
def transmission : List Event :=
  [.send "/a" .empty .raw, .finish 1, .command, .connected, .next, .taken, .next]

theorem reachable_start (config : Config) (session : Session) (jar : Jar) :
    Reachable (start config session jar) := ⟨config, session, jar, [], rfl⟩

theorem Reachable.run (h : c.Reachable) (es : List Event) : (c.run es).Reachable := by
  obtain ⟨config, session, jar, before, rfl⟩ := h
  exact ⟨config, session, jar, before ++ es, (run_append _ _ _).symm⟩

theorem reachable_fresh (es : List Event) : (fresh.run es).Reachable :=
  (reachable_start _ _ _).run es

theorem Reachable.step (h : c.Reachable) (e : Event) : (c.step e).Reachable := h.run [e]

/-- What every transition keeps, every run keeps. -/
theorem run_keeps {P : Client → Prop} (hstep : ∀ {c e c'}, P c → Transition c e c' → P c')
    (h : P c) (es : List Event) : P (c.run es) := by
  induction es generalizing c with
  | nil => exact h
  | cons e es ih => exact ih (hstep h (step_transition c e))

/-- **Invariants**: what holds at the start and is kept by every transition always holds. -/
theorem Reachable.invariant {P : Client → Prop}
    (hstart : ∀ config session jar, P (start config session jar))
    (hstep : ∀ {c e c'}, P c → Transition c e c' → P c') (h : c.Reachable) : P c := by
  obtain ⟨config, session, jar, events, rfl⟩ := h
  exact run_keeps hstep (hstart config session jar) events

/-- A loop that has ended does not run again. -/
theorem Transition.running (h : Transition c e c') (hs : c'.stopped = false) :
    c.stopped = false := by
  cases h with
  | halted => cases hs
  | _ => exact hs

theorem running_of_run (es : List Event) (hs : (c.run es).stopped = false) :
    c.stopped = false := by
  induction es generalizing c with
  | nil => exact hs
  | cons e es ih => exact (step_transition c e).running (ih hs)

theorem Transition.valid (h : Transition c e c') (hv : c.outbox.Valid) : c'.outbox.Valid := by
  cases h with
  | queuedOpen | queuedLater | queuedDialled => exact hv.withQueue _
  | queuedRotated | cleared | halted | rotated => exact Outbox.valid_of_nil rfl
  | skipped => exact hv.withQueue _
  | handed => exact (hv.withQueue _).markSent _
  | ended =>
    show Outbox.Valid (if _ then _ else _)
    split
    · exact Outbox.valid_of_nil rfl
    · exact hv
  | answered b connection seq outcome r outbox hl hj ht =>
    obtain ⟨stamp, -, rfl⟩ := Outbox.take?_eq_some_iff.1 ht
    exact hv.filter _
  | _ => exact hv

theorem reachable_valid (h : c.Reachable) : c.outbox.Valid :=
  h.invariant (P := fun c => c.outbox.Valid) (fun _ _ _ => Outbox.valid_of_nil rfl)
    fun hv ht => ht.valid hv

end Courier.Client

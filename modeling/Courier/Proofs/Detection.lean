import Courier.Cookie.Jar
import Courier.Proofs.Session

/-!
# Rotations are detected exactly

A session compares whole headers before it looks for its cookie in one. That saves work and changes
nothing: whatever happens to the store, every check tells what it would tell if it looked each time.
A rotation is reported exactly when one is known or the value that was last seen is another one now,
or gone.

* `Faithful.check_eq_checkAfresh`: the comparison of whole headers never matters.
* `Watch.run`: what checks and changes of a store report, while others change it too.
* `rotation_detected`: **both ways to check agree, and the check is exact**, after any operations.
-/

namespace Courier.Session

variable {σ : Type} {s : Session} {header : σ → String} {store : σ}

/-- The value that was last seen is another one in this header, or gone. -/
def Lost (s : Session) (header : String) : Prop :=
  ∃ value, s.lastValue = some value ∧ extract s.cookieName header ≠ some value

/-! ## Without comparing headers -/

/-- A check that looks for the cookie each time. -/
def checkAfresh (s : Session) (header : String) : Session × SessionStatus :=
  if s.rotated then (s, .rotated)
  else
    let seen := s.snapshot header
    match s.lastValue with
    | none => (seen, .unchanged)
    | some previous =>
      if seen.lastValue = some previous then (seen, .unchanged)
      else ({ seen with rotated := true }, .rotated)

/-- A change of a store that looks for the cookie each time. -/
def updateAfresh (header : σ → String) (s : Session) (store : σ) (change : σ → σ) :
    Session × σ × Bool :=
  match s.checkAfresh (header store) with
  | (s, .rotated) => (s, store, false)
  | (s, .unchanged) => (s.snapshot (header (change store)), change store, true)

/-- **The comparison of whole headers never matters.** -/
theorem Faithful.check_eq_checkAfresh (hs : s.Faithful) (header : String) :
    s.check header = s.checkAfresh header := by
  unfold Session.check checkAfresh
  by_cases hr : s.rotated = true
  · rw [if_pos hr, if_pos hr]
  rw [if_neg hr, if_neg hr]
  by_cases hl : s.lastHeader = some header
  · -- The value that is remembered is the one that would be found.
    have hvalue : extract s.cookieName header = s.lastValue := (hs header hl).symm
    have hsnapshot := hs.snapshot_eq hl
    rw [if_pos hl]
    cases hv : s.lastValue with
    | none => simp only [hsnapshot]
    | some previous => simp only [hsnapshot, hv, if_true]
  · exact if_neg hl

theorem Faithful.update_eq_updateAfresh (hs : s.Faithful) (header : σ → String) (store : σ)
    (change : σ → σ) :
    s.update header store change = s.updateAfresh header store change := by
  unfold Session.update updateAfresh
  have hcheck := hs.check_eq_checkAfresh (header store)
  exact hcheck ▸ rfl

/-! ## Operations -/

/-- What can happen to a store that a session watches. -/
inductive Operation (σ : Type) where
  /-- Somebody else changes the store. -/
  | foreign (change : σ → σ)
  | check
  | update (change : σ → σ)

/-- A way to watch a store: how it is checked, and how it is changed. -/
structure Watch (σ : Type) where
  check : Session → σ → Session × SessionStatus
  /-- The flag says whether the change was made. -/
  update : Session → σ → (σ → σ) → Session × σ × Bool

/-- The way that a session watches a store. -/
def watch (header : σ → String) : Watch σ where
  check s store := s.check (header store)
  update := update header

/-- The way that looks for the cookie each time. -/
def watchAfresh (header : σ → String) : Watch σ where
  check s store := s.checkAfresh (header store)
  update := updateAfresh header

namespace Watch

/-- One operation, and what it reports: a change that is refused reports a rotation. -/
def act (w : Watch σ) (s : Session) (store : σ) :
    Operation σ → Session × σ × Option SessionStatus
  | .foreign change => (s, change store, none)
  | .check => ((w.check s store).1, store, some (w.check s store).2)
  | .update change =>
    ((w.update s store change).1, (w.update s store change).2.1,
      some (if (w.update s store change).2.2 then .unchanged else .rotated))

/-- A sequence of operations, and what each of them reports. -/
def run (w : Watch σ) (s : Session) (store : σ) :
    List (Operation σ) → Session × σ × List (Option SessionStatus)
  | [] => (s, store, [])
  | op :: ops =>
    let (s, store, report) := w.act s store op
    let (s, store, reports) := w.run s store ops
    (s, store, report :: reports)

end Watch

theorem Faithful.update (hs : s.Faithful) (header : σ → String) (store : σ) (change : σ → σ) :
    (s.update header store change).1.Faithful := by
  unfold Session.update
  have hcheck := hs.check (header store)
  cases hc : s.check (header store) with
  | mk s' status =>
    rw [hc] at hcheck
    cases status with
    | unchanged => exact faithful_snapshot _ _
    | rotated => exact hcheck

theorem cookieName_update (s : Session) (header : σ → String) (store : σ) (change : σ → σ) :
    (s.update header store change).1.cookieName = s.cookieName := by
  have hcheck := cookieName_check s (header store)
  unfold Session.update
  cases hc : s.check (header store) with
  | mk s' status =>
    rw [hc] at hcheck
    cases status <;> exact hcheck

/-- **One operation** is the same either way, and the session stays faithful to what it saw. -/
theorem Faithful.act (hs : s.Faithful) (header : σ → String) (store : σ) (op : Operation σ) :
    (watch header).act s store op = (watchAfresh header).act s store op ∧
      ((watch header).act s store op).1.Faithful ∧
      ((watch header).act s store op).1.cookieName = s.cookieName := by
  cases op with
  | foreign change => exact ⟨rfl, hs, rfl⟩
  | check =>
    have hcheck : (watch header).check s store = (watchAfresh header).check s store :=
      hs.check_eq_checkAfresh _
    exact ⟨by simp only [Watch.act, hcheck], hs.check _, cookieName_check _ _⟩
  | update change =>
    have hupdate :
        (watch header).update s store change = (watchAfresh header).update s store change :=
      hs.update_eq_updateAfresh _ _ _
    exact ⟨by simp only [Watch.act, hupdate], hs.update _ _ _, cookieName_update _ _ _ _⟩

/-- **Any operations** are. -/
theorem Faithful.run (hs : s.Faithful) (header : σ → String) (store : σ)
    (ops : List (Operation σ)) :
    (watch header).run s store ops = (watchAfresh header).run s store ops ∧
      ((watch header).run s store ops).1.Faithful ∧
      ((watch header).run s store ops).1.cookieName = s.cookieName := by
  -- What carries the induction is that the session stays faithful; both ways share every state.
  induction ops generalizing s store with
  | nil => exact ⟨rfl, hs, rfl⟩
  | cons op ops ih =>
    obtain ⟨hact, hfaithful, hname⟩ := hs.act header store op
    obtain ⟨hrun, hlast, hnames⟩ := ih hfaithful ((watch header).act s store op).2.1
    simp only [Watch.run, ← hact]
    exact ⟨by rw [hrun], hlast, hnames.trans hname⟩

/-! ## What is detected -/

/-- **A check is exact.** -/
theorem Faithful.check_cases (hs : s.Faithful) (header : String) :
    (s.rotated = true ∨ s.Lost header) ∧
        (s.check header).2 = .rotated ∧ (s.check header).1.rotated = true ∨
      ¬ (s.rotated = true ∨ s.Lost header) ∧ s.check header = (s.snapshot header, .unchanged) ∧
        s.rotated = false := by
  cases hr : s.rotated with
  | true =>
    rw [check_of_rotated hr]
    exact .inl ⟨.inl rfl, rfl, hr⟩
  | false =>
    rw [hs.check_eq hr]
    -- Nothing was there to be lost, or it is still there.
    by_cases hvalue : s.lastValue = none ∨ s.lastValue = extract s.cookieName header
    · have hkept : ¬ s.Lost header := by
        rintro ⟨value, hlast, hother⟩
        rw [hlast] at hvalue
        exact hvalue.elim nofun fun h => hother h.symm
      rw [if_pos hvalue]
      exact .inr ⟨by simp [hkept], rfl, rfl⟩
    · obtain ⟨hsome, hother⟩ := not_or.1 hvalue
      obtain ⟨value, hlast⟩ := Option.ne_none_iff_exists'.1 hsome
      rw [if_neg hvalue]
      exact .inl ⟨.inr ⟨value, hlast, fun h => hother (hlast.trans h.symm)⟩, rfl, rfl⟩

/-- What a session remembers of a store: the header, and the value in it. -/
def Snapshots (s : Session) (name header : String) : Prop :=
  s.lastHeader = some header ∧ s.lastValue = extract name header

/-- What a session detects that watches the cookie of this name in a store. -/
structure Detects (name : String) (header : σ → String) (s : Session) (store : σ) : Prop where
  cookieName_eq : s.cookieName = name
  /-- What it compares with is the value in the header that it saw last. -/
  faithful : s.Faithful
  /-- A check reports a rotation if one is known, or if the last value is lost. -/
  check_iff : (s.check (header store)).2 = .rotated ↔ s.rotated = true ∨ s.Lost (header store)
  /-- Then it is known from now on, and otherwise not. -/
  checked_iff : (s.check (header store)).1.rotated = true ↔
    s.rotated = true ∨ s.Lost (header store)
  /-- A change is refused for the same reasons. -/
  update_iff : ∀ change, (s.update header store change).2.2 = false ↔
    s.rotated = true ∨ s.Lost (header store)
  /-- A change that is refused is a check, and leaves the store alone. -/
  update_refused : ∀ change, (s.update header store change).2.2 = false →
    s.update header store change = ((s.check (header store)).1, store, false)
  updated_iff : ∀ change, (s.update header store change).1.rotated = true ↔
    s.rotated = true ∨ s.Lost (header store)
  /-- A check that reports no rotation leaves a snapshot of the store. -/
  check_snapshot : (s.check (header store)).2 = .unchanged →
    (s.check (header store)).1.Snapshots name (header store)
  /-- So does a change that is made, after it. -/
  update_snapshot : ∀ change, (s.update header store change).2.2 = true →
    (s.update header store change).2.1 = change store ∧
      (s.update header store change).1.Snapshots name (header (change store))

theorem Faithful.detects (hs : s.Faithful) (header : σ → String) (store : σ) :
    Detects s.cookieName header s store := by
  rcases hs.check_cases (header store) with ⟨hlost, hstatus, hrotated⟩ | ⟨hkept, hcheck, hr⟩
  · have hcheck : s.check (header store) = ((s.check (header store)).1, .rotated) := by
      rw [← hstatus]
    have hupdate (change : σ → σ) :
        s.update header store change = ((s.check (header store)).1, store, false) := by
      rw [Session.update, hcheck]
    refine ⟨rfl, hs, ?_, ?_, fun change => ?_, fun change _ => hupdate change, fun change => ?_, ?_,
      fun change => ?_⟩
    · exact ⟨fun _ => hlost, fun _ => hstatus⟩
    · exact ⟨fun _ => hlost, fun _ => hrotated⟩
    · rw [hupdate]
      exact ⟨fun _ => hlost, fun _ => rfl⟩
    · rw [hupdate]
      exact ⟨fun _ => hlost, fun _ => hrotated⟩
    · simp [hstatus]
    · simp [hupdate]
  · have hupdate (change : σ → σ) : s.update header store change =
        ((s.snapshot (header store)).snapshot (header (change store)), change store, true) := by
      rw [Session.update, hcheck]
    have hsnapshot (h : String) : (s.snapshot h).rotated = false := hr
    refine ⟨rfl, hs, ?_, ?_, fun change => ?_, fun change => ?_, fun change => ?_, ?_,
      fun change => ?_⟩
    · simp [hcheck, hkept]
    · simp [hcheck, hkept, hsnapshot]
    · simp [hupdate, hkept]
    · simp [hupdate]
    · rw [hupdate]
      exact ⟨fun h => absurd (hr.symm.trans h) Bool.false_ne_true, fun h => absurd h hkept⟩
    · rw [hcheck]
      exact fun _ => ⟨rfl, rfl⟩
    · rw [hupdate]
      exact fun _ => ⟨rfl, rfl, rfl⟩

/-- **Rotations are detected exactly.** Begin with a session that has seen nothing, and let it
watch any store while others change it: whatever it reports, it would report if it looked for its
cookie each time, and it ends in the same state; and what it reports next is exact. -/
theorem rotation_detected (name : String) (header : σ → String) (store : σ)
    (ops : List (Operation σ)) :
    (watch header).run (new name) store ops = (watchAfresh header).run (new name) store ops ∧
      Detects name header ((watch header).run (new name) store ops).1
        ((watch header).run (new name) store ops).2.1 := by
  obtain ⟨hrun, hfaithful, hname⟩ := (faithful_new name).run header store ops
  refine ⟨hrun, ?_⟩
  have hdetects := hfaithful.detects header ((watch header).run (new name) store ops).2.1
  rwa [hname] at hdetects

/-- Another cookie changes nothing, nor does a change by the session itself. A cookie that is gone
is a rotation, and stays one when it is back. -/
example : ((watch Jar.header).run (new "sid") .empty
    [.check, .foreign (·.insert "sid" "1"), .check, .foreign (·.insert "xsid" "2"), .check,
      .update (·.insert "sid" "3"), .check, .foreign (·.erase "sid"), .check,
      .foreign (·.insert "sid" "3"), .check, .update id]).2.2.filterMap id =
    [.unchanged, .unchanged, .unchanged, .unchanged, .unchanged, .rotated, .rotated, .rotated] := by
  decide +kernel

end Courier.Session

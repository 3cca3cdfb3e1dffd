import Courier.Cookie.Session

/-!
# Checks of the session cookie

A check passes or notices a rotation. One that passes leaves a snapshot of the header behind,
and it passes as well for a session that missed some of the checks before.

* `Faithful.passes`: what a check that passes tells, and what it leaves behind.
* `Trails.check`: **who missed checks passes the next one**, and has caught up then.
-/

namespace Courier.Session

variable {s s' t : Session} {header : String}

/-- A rotation that is noticed is remembered. -/
theorem rotated_of_check (h : s.check header = (s', .rotated)) : s'.rotated = true := by
  unfold check at h
  split at h
  · rename_i hrotated
    cases h
    exact hrotated
  split at h
  · cases h
  simp only at h
  split at h
  · cases h
  split at h
  · cases h
  · cases h
    rfl

theorem not_rotated_of_check (h : s.check header = (s', .unchanged)) : s.rotated = false := by
  cases hr : s.rotated with
  | false => rfl
  | true =>
    rw [check_of_rotated hr] at h
    cases h

/-- A change after which no rotation is known was made. -/
theorem update_of_unrotated {σ : Type} {toHeader : σ → String} {store : σ} {change : σ → σ}
    (h : (s.update toHeader store change).1.rotated = false) :
    s.update toHeader store change =
      ((s.check (toHeader store)).1.snapshot (toHeader (change store)), change store, true) ∧
    (s.check (toHeader store)).1.rotated = false := by
  unfold update at h ⊢
  cases hc : s.check (toHeader store) with
  | mk s' status =>
  rw [hc] at h
  cases status with
  | unchanged => exact ⟨rfl, h⟩
  | rotated =>
    rw [show s'.rotated = true from rotated_of_check hc] at h
    cases h

/-- The value that is remembered is the one in the header that is remembered. -/
def Faithful (s : Session) : Prop :=
  ∀ header, s.lastHeader = some header → s.lastValue = extract s.cookieName header

theorem faithful_new (cookieName : String) : (new cookieName).Faithful := by
  intro header h
  cases h

theorem faithful_snapshot (s : Session) (header : String) : (s.snapshot header).Faithful := by
  intro header' h
  cases h
  rfl

theorem Faithful.snapshot_eq (hs : s.Faithful) (h : s.lastHeader = some header) :
    s.snapshot header = s := by
  rw [snapshot, ← hs header h, ← h]

/-- A check passes exactly if no value is lost, and then it takes a snapshot. -/
theorem Faithful.check_eq (hs : s.Faithful) (hr : s.rotated = false) :
    s.check header = if s.lastValue = none ∨ s.lastValue = extract s.cookieName header then
      (s.snapshot header, .unchanged)
    else ({ s.snapshot header with rotated := true }, .rotated) := by
  rw [check, if_neg (by simp [hr])]
  by_cases hl : s.lastHeader = some header
  · rw [if_pos hl, if_pos (.inr (hs header hl)), hs.snapshot_eq hl]
  · rw [if_neg hl]
    cases hv : s.lastValue with
    | none => simp
    | some value =>
      have hseen : (s.snapshot header).lastValue = extract s.cookieName header := rfl
      simp only [hseen, reduceCtorEq, false_or, eq_comm]

/-- What a check that passes tells, and what it leaves behind. -/
theorem Faithful.passes (hs : s.Faithful) (h : (s.check header).1.rotated = false) :
    s.rotated = false ∧ (s.lastValue = none ∨ s.lastValue = extract s.cookieName header) ∧
      s.check header = (s.snapshot header, .unchanged) := by
  cases hr : s.rotated with
  | true =>
    rw [check_of_rotated hr, hr] at h
    cases h
  | false =>
    rw [hs.check_eq hr] at h ⊢
    split at h
    · rename_i hvalue
      exact ⟨rfl, hvalue, if_pos hvalue⟩
    · cases h

/-- The same for a check that is known to have passed. -/
theorem Faithful.unchanged (hs : s.Faithful) (h : s.check header = (s', .unchanged)) :
    s' = s.snapshot header ∧ (s.lastValue = none ∨ s.lastValue = extract s.cookieName header) := by
  have hr := not_rotated_of_check h
  rw [hs.check_eq hr] at h
  split at h
  · rename_i hvalue
    cases h
    exact ⟨rfl, hvalue⟩
  · cases h

/-- A check leaves the session as it is, or a snapshot behind. -/
theorem check_cases (s : Session) (header : String) :
    (s.check header).1 = s ∨ ∃ rotated, (s.check header).1 = { s.snapshot header with
      rotated := rotated } := by
  unfold check
  by_cases hr : s.rotated = true
  · rw [if_pos hr]
    exact .inl rfl
  rw [if_neg hr]
  by_cases hl : s.lastHeader = some header
  · rw [if_pos hl]
    exact .inl rfl
  rw [if_neg hl]
  cases s.lastValue with
  | none => exact .inr ⟨s.rotated, rfl⟩
  | some previous =>
    simp only
    split
    · exact .inr ⟨s.rotated, rfl⟩
    · exact .inr ⟨true, rfl⟩

theorem cookieName_check (s : Session) (header : String) :
    (s.check header).1.cookieName = s.cookieName := by
  rcases check_cases s header with h | ⟨rotated, h⟩ <;> rw [h]
  rfl

theorem Faithful.check (hs : s.Faithful) (header : String) : (s.check header).1.Faithful := by
  rcases check_cases s header with h | ⟨rotated, h⟩ <;> rw [h]
  · exact hs
  · exact faithful_snapshot s header

/-- An empty header has no value in it. -/
theorem extract_empty (name : String) : extract name "" = none := by
  have hvalue : valueAt? name.toList [] = none := by simp [valueAt?]
  simp [extract, hvalue, laterValue?]

/-- A session that remembers this value, or knows that it was lost. -/
def Holds (value : String) (s : Session) : Prop :=
  s.rotated = true ∨ s.lastValue = some value

/-- **No check forgets a value** without noticing. -/
theorem Holds.check {value : String} (h : s.Holds value) (hs : s.Faithful) (header : String) :
    (s.check header).1.Holds value := by
  cases hr : s.rotated with
  | true =>
    rw [check_of_rotated hr]
    exact .inl hr
  | false =>
    have hvalue : s.lastValue = some value := by simpa [Holds, hr] using h
    rw [hs.check_eq hr]
    split
    · rename_i hpass
      have hextract : extract s.cookieName header = some value := by
        rw [hvalue] at hpass
        simpa [eq_comm] using hpass
      exact .inr hextract
    · exact .inl rfl

/-- The first check passes, whatever the header. -/
theorem check_new (cookieName header : String) :
    (new cookieName).check header = ((new cookieName).snapshot header, .unchanged) := by
  rw [(faithful_new cookieName).check_eq rfl, if_pos (.inl rfl)]

/-- A session that missed some of the checks of another one: at most it has not seen a value
where the other one has. -/
structure Trails (t s : Session) : Prop where
  cookieName_eq : t.cookieName = s.cookieName
  unrotated : t.rotated = false
  faithful : t.Faithful
  faithful_ahead : s.Faithful
  value : t.lastValue = none ∨ t.lastValue = s.lastValue

theorem trails_new (cookieName : String) : (new cookieName).Trails (new cookieName) :=
  ⟨rfl, rfl, faithful_new _, faithful_new _, .inl rfl⟩

/-- Snapshots of one header are alike. -/
theorem Trails.snapshot (h : t.Trails s) (header : String) :
    (t.snapshot header).Trails (s.snapshot header) where
  cookieName_eq := h.cookieName_eq
  unrotated := h.unrotated
  faithful := faithful_snapshot _ _
  faithful_ahead := faithful_snapshot _ _
  value := .inr (congrArg (extract · header) h.cookieName_eq)

/-- The session ahead passes a check of its own. -/
theorem Trails.ahead (h : t.Trails s) (hs : (s.check header).1.rotated = false) :
    t.Trails (s.check header).1 := by
  obtain ⟨-, hvalue, hcheck⟩ := h.faithful_ahead.passes hs
  rw [hcheck]
  refine ⟨h.cookieName_eq, h.unrotated, h.faithful, faithful_snapshot _ _, ?_⟩
  rcases h.value with ht | ht
  · exact .inl ht
  · -- The value that both have is still in the header.
    rw [ht]
    exact hvalue

/-- **Who missed checks passes the next one**, and has caught up then. -/
theorem Trails.check (h : t.Trails s) (hs : (s.check header).1.rotated = false) :
    t.check header = (t.snapshot header, .unchanged) ∧
      s.check header = (s.snapshot header, .unchanged) := by
  obtain ⟨-, hvalue, hcheck⟩ := h.faithful_ahead.passes hs
  refine ⟨?_, hcheck⟩
  rw [h.faithful.check_eq h.unrotated, if_pos]
  rcases h.value with ht | ht
  · exact .inl ht
  · rw [ht, h.cookieName_eq]
    exact hvalue

/-- The same for a change of the store. -/
theorem Trails.update {σ : Type} (h : t.Trails s) {toHeader : σ → String} {store : σ}
    {change : σ → σ} (hs : (s.update toHeader store change).1.rotated = false) :
    (t.update toHeader store change).1.Trails (s.update toHeader store change).1 := by
  obtain ⟨ht, hs'⟩ := h.check (update_of_unrotated hs).2
  simp only [Session.update, ht, hs']
  exact (h.snapshot _).snapshot _

end Courier.Session

import Courier.Duration

/-!
# Reconnect delays

The delay before the next attempt: none after an open, then one second, then twice the last
one up to a ceiling.

* `escalate_iterate`: the `n + 1`-st failure in a row waits `min (2 ^ n) ceiling` seconds.
* `secs_le_ceiling`: no delay exceeds the ceiling.
-/

namespace Courier

/-- The seconds that the last failure was followed by, and the most there may be. -/
structure Backoff where
  secs : Nat
  ceiling : Nat
deriving DecidableEq

namespace Backoff

/-- No failure yet. The ceiling is `max` in whole seconds, but at least one. -/
def new (max : Duration) : Backoff := ⟨0, Nat.max 1 max.secs⟩

/-- Whether there was no failure since the last open. -/
def isIdle (b : Backoff) : Bool := b.secs == 0

/-- The current delay. -/
def current (b : Backoff) : Duration := .ofSecs b.secs

/-- An open: the next failure is again the first. -/
def reset (b : Backoff) : Backoff := { b with secs := 0 }

/-- A failure: one second, or twice the last delay up to the ceiling. -/
def escalate (b : Backoff) : Backoff :=
  { b with secs := if b.secs = 0 then 1 else min (2 * b.secs) b.ceiling }

/-- So many failures in a row. -/
def escalateBy (b : Backoff) : Nat → Backoff
  | 0 => b
  | n + 1 => (b.escalateBy n).escalate

@[simp] theorem ceiling_escalate (b : Backoff) : b.escalate.ceiling = b.ceiling := rfl

@[simp] theorem ceiling_escalateBy (b : Backoff) (n : Nat) :
    (b.escalateBy n).ceiling = b.ceiling := by
  induction n with
  | zero => rfl
  | succ n ih => simpa [escalateBy] using ih

/-- **Delays double up to the ceiling**, from one second on. -/
theorem escalate_iterate {b : Backoff} (idle : b.secs = 0) (hc : 0 < b.ceiling) (n : Nat) :
    (b.escalateBy (n + 1)).secs = min (2 ^ n) b.ceiling := by
  induction n with
  | zero => simp [escalateBy, escalate, idle]; omega
  | succ n ih =>
    rw [escalateBy, escalate]
    simp only [ih, ceiling_escalateBy]
    have hp : 0 < 2 ^ n := Nat.two_pow_pos n
    have hne : ¬ min (2 ^ n) b.ceiling = 0 := by omega
    rw [if_neg hne, Nat.pow_succ]
    omega

/-- A failure never waits longer than the ceiling. -/
theorem secs_le_ceiling {b : Backoff} (hc : 0 < b.ceiling) :
    b.escalate.secs ≤ b.escalate.ceiling := by
  simp only [escalate]
  split <;> omega

end Backoff

end Courier

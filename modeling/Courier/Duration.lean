import Courier.Number.Power

/-!
# Durations

A span of time in whole seconds and nanoseconds. Messages show it in the largest unit of
which it holds at least one.
-/

namespace Courier

/-- A span of time; below a second it is counted in nanoseconds. -/
structure Duration where
  secs : Nat
  nanos : Nat
deriving DecidableEq

namespace Duration

/-- So many seconds and nanoseconds; a billion of these is a second. -/
def new (secs nanos : Nat) : Duration := ⟨secs + nanos / 1000000000, nanos % 1000000000⟩

/-- A number of whole seconds. -/
def ofSecs (n : Nat) : Duration := ⟨n, 0⟩

/-- A number of milliseconds. -/
def ofMillis (n : Nat) : Duration := ⟨n / 1000, n % 1000 * 1000000⟩

/-- A decimal with `places` digits after the point, less the trailing zeros. -/
def renderFraction (whole fraction places : Nat) : String :=
  let digits := toString (10 ^ places + fraction)
  let kept := (digits.toList.drop 1).reverse.dropWhile (· == '0') |>.reverse
  toString whole ++ if kept.isEmpty then "" else "." ++ String.ofList kept

/-- A duration as it stands in a message. -/
def render (d : Duration) : String :=
  if 0 < d.secs then renderFraction d.secs d.nanos 9 ++ "s"
  else if 1000000 ≤ d.nanos then renderFraction (d.nanos / 1000000) (d.nanos % 1000000) 6 ++ "ms"
  else if 1000 ≤ d.nanos then renderFraction (d.nanos / 1000) (d.nanos % 1000) 3 ++ "µs"
  else toString d.nanos ++ "ns"

end Duration

end Courier

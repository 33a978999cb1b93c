/-
# Jitter windows

A background retry waits for a random delay around its interval: anything
from `interval - jitter` to `interval + jitter`, both ends included. A window
only exists when the shortest delay is positive and the longest fits 64 bits
of nanoseconds, so that a delay can be drawn as a 64-bit word.

Key definitions: `JitterWindow.around`, `JitterWindow.draw`, `derivedJitter`.
-/
import HostRotation.Error
import HostRotation.Tape

namespace HostRotation

/-- The delays from `lower` to `upper`. -/
structure JitterWindow where
  lower : Duration
  upper : Duration
  lower_pos : 0 < lower.total
  lower_le_upper : lower.total ≤ upper.total
  upper_lt : upper.total < UInt64.size
deriving DecidableEq

namespace JitterWindow

/-- The window around an interval. The first rule that is broken is the one
reported: the interval is positive, it is longer than the jitter, and their
sum fits 64 bits of nanoseconds. -/
def around (interval jitter : Duration) : Except SettingsFault JitterWindow :=
  if interval.total = 0 then .error (.zeroInterval interval)
  else
    match hl : interval.sub? jitter with
    | none => .error (.jitterTooLong interval jitter)
    | some lower =>
      if hp : 0 < lower.total then
        match hu : interval.add? jitter with
        | none => .error (.windowTooLong interval jitter)
        | some upper =>
          if hf : upper.total < UInt64.size then
            .ok {
              lower, upper
              lower_pos := hp
              lower_le_upper := by
                have h1 := (Duration.sub?_eq_some_iff.1 hl).2
                have h2 := Duration.add?_eq_some_iff.1 hu
                omega
              upper_lt := hf }
          else .error (.windowTooLong interval jitter)
      else .error (.jitterTooLong interval jitter)

/-- Whether a delay lies in the window. -/
def contains (w : JitterWindow) (d : Duration) : Bool :=
  w.lower.total ≤ d.total && d.total ≤ w.upper.total

/-- The delay that a random word stands for. -/
def delayOf (w : JitterWindow) (word : UInt64) : Duration :=
  let lower := w.lower.toWord
  let upper := w.upper.toWord
  .ofWord (lower + word % (upper - lower + 1))

/-- Draws a delay. -/
def draw (w : JitterWindow) (t : Tape) : Duration × Tape :=
  let (word, t) := t.next
  (w.delayOf word, t)

/-- Draws `n` delays in a row. -/
def draws (w : JitterWindow) : Nat → Tape → List Duration
  | 0, _ => []
  | n + 1, t =>
    let (d, t) := w.draw t
    d :: w.draws n t

end JitterWindow

/-- The interval of health checks when none is given: five seconds. -/
def defaultHealthInterval : Duration := .ofMillis 5000

/-- The jitter of health checks when none is given: three seconds. -/
def defaultHealthJitter : Duration := .ofMillis 3000

/-- The interval of resubscribes when none is given: ten seconds. -/
def defaultResubscribeInterval : Duration := .ofMillis 10000

/-- The jitter of resubscribes when none is given: three seconds. -/
def defaultResubscribeJitter : Duration := .ofMillis 3000

/-- The jitter of an interval that comes without one: half the interval while
that is shorter than the default, the default jitter otherwise. -/
def derivedJitter (interval : Duration) : Duration :=
  if interval.total < defaultHealthInterval.total then interval.half else defaultHealthJitter

end HostRotation

/-!
# Durations

Pauses and windows are measured in nanoseconds.  Settings give them in
milliseconds, and a duration that is converted back to a coarser unit loses
what does not fill one.
-/

namespace EventRelay

/-- A length of time. -/
structure Duration where
  nanos : Nat
  deriving DecidableEq

namespace Duration

/-- No time at all. -/
def zero : Duration := ⟨0⟩

/-- A number of milliseconds as a length of time. -/
def ofMillis (millis : Nat) : Duration := ⟨millis * 1000000⟩

/-- A number of microseconds as a length of time. -/
def ofMicros (micros : Nat) : Duration := ⟨micros * 1000⟩

/-- The whole milliseconds in a duration. -/
def toMillis (duration : Duration) : Nat := duration.nanos / 1000000

/-- The whole microseconds in a duration. -/
def toMicros (duration : Duration) : Nat := duration.nanos / 1000

end Duration

end EventRelay

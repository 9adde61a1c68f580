/-!
# Instants

An instant is a number of nanoseconds since the start of 1970, between the years -262143 and
262142. Stored objects carry whole milliseconds. A span of time is a number of nanoseconds as well;
the longest has as many milliseconds as a signed number of 64 bits can count, which is more than any
two instants are apart.
-/

namespace Depot

namespace Instant

/-- The nanoseconds of a millisecond. -/
def nanosPerMilli : Int := 1000000

/-- The nanoseconds of a second. -/
def nanosPerSecond : Int := 1000000000

/-- The first instant. -/
def minNanos : Int := -8334601228800 * nanosPerSecond

/-- The last instant. -/
def maxNanos : Int := 8210266876799 * nanosPerSecond + 999999999

end Instant

/-- A point in time. -/
structure Instant where
  nanos : Int
  inRange : Instant.minNanos ≤ nanos ∧ nanos ≤ Instant.maxNanos
  deriving DecidableEq

namespace Instant

/-- The instant of a number of nanoseconds, if it is in range. -/
def ofNanos? (n : Int) : Option Instant :=
  if h : minNanos ≤ n ∧ n ≤ maxNanos then some ⟨n, h⟩ else none

/-- The instant of a number of milliseconds, if it is in range. -/
def ofMillis? (ms : Int) : Option Instant :=
  ofNanos? (ms * nanosPerMilli)

/-- The whole milliseconds until an instant, rounded down. -/
def millis (t : Instant) : Int :=
  t.nanos / nanosPerMilli

/-- The instant that is so many nanoseconds later, or earlier, if there is one. -/
def add? (t : Instant) (n : Int) : Option Instant :=
  ofNanos? (t.nanos + n)

/-- Whole seconds, rounded down, and the nanoseconds after them. -/
def parts (t : Instant) : Int × Int :=
  (t.nanos / nanosPerSecond, t.nanos % nanosPerSecond)

/-- The instant of seconds and nanoseconds. -/
def ofParts? (seconds nanos : Int) : Option Instant :=
  ofNanos? (seconds * nanosPerSecond + nanos)

/-- Noon of the first of January 2024. -/
def noon2024 : Instant := ⟨1704110400 * nanosPerSecond, by decide⟩

end Instant

/-! ## Spans of time -/

/-- The nanoseconds of the longest span. -/
def Span.maxNanos : Int := 0x7FFFFFFFFFFFFFFF * Instant.nanosPerMilli

/-- A span of time, forwards or backwards. -/
structure Span where
  nanos : Int
  inRange : -Span.maxNanos ≤ nanos ∧ nanos ≤ Span.maxNanos
  deriving DecidableEq

/-- The span of a number of nanoseconds, unless it is too long. -/
def Span.ofNanos? (n : Int) : Option Span :=
  if h : -maxNanos ≤ n ∧ n ≤ maxNanos then some ⟨n, h⟩ else none

/-- The instant at the end of a span that starts at another one, if there is one. -/
def Span.after? (s : Span) (t : Instant) : Option Instant :=
  t.add? s.nanos

end Depot

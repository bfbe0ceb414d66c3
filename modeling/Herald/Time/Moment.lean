import Herald.Time.Span
/-!
# Moments

A moment is a point on a clock's line, kept as its distance from the clock's
start. Adding a span can run off the end of the line; the time between two
moments never runs below nothing.
-/

namespace Herald

/-- A point in time, as its distance from the start of a clock. The second
counter is signed, so half the range of a span is left to it. -/
structure Moment where
  seconds : Nat
  nanos : Nat
  seconds_lt : seconds < 0x8000_0000_0000_0000
  nanos_lt : nanos < 1_000_000_000
  deriving Repr

namespace Moment

/-- Nanoseconds between the start of the clock and a moment. -/
def toNanos (m : Moment) : Nat := m.seconds * 1_000_000_000 + m.nanos

/-- A moment is fixed by its distance from the start. -/
theorem toNanos_injective {s t : Moment} (h : s.toNanos = t.toNanos) : s = t := by
  obtain ⟨a, b, ha, hb⟩ := s
  obtain ⟨c, d, hc, hd⟩ := t
  simp only [toNanos] at *
  have h1 : a = c := by omega
  have h2 : b = d := by omega
  subst h1 h2
  rfl

/-- Moments are the same when their distances are. -/
instance : DecidableEq Moment := fun s t =>
  decidable_of_iff (s.toNanos = t.toNanos) ⟨toNanos_injective, congrArg toNanos⟩

/-- The start of the clock. -/
def start : Moment := ⟨0, 0, by omega, Span.zero.nanos_lt⟩

/-- A span later, or nothing when the second counter would overflow. The
nanoseconds may carry one second over. -/
def add? (m : Moment) (d : Span) : Option Moment :=
  if h : m.nanos + d.nanos < 1_000_000_000 then
    if hs : m.seconds + d.seconds < 0x8000_0000_0000_0000 then
      some ⟨m.seconds + d.seconds, m.nanos + d.nanos, hs, h⟩
    else none
  else
    if hs : m.seconds + d.seconds + 1 < 0x8000_0000_0000_0000 then
      some ⟨m.seconds + d.seconds + 1, m.nanos + d.nanos - 1_000_000_000, hs, by
        have := m.nanos_lt
        have := d.nanos_lt
        omega⟩
    else none

/-- Time passed from `earlier` to `m`; nothing has passed if `m` comes
first. -/
def since (m earlier : Moment) : Span :=
  if h : earlier.seconds ≤ m.seconds ∧ earlier.nanos ≤ m.nanos then
    ⟨m.seconds - earlier.seconds, m.nanos - earlier.nanos,
      by have := m.seconds_lt; omega, by have := m.nanos_lt; omega⟩
  else if h : earlier.seconds < m.seconds then
    ⟨m.seconds - earlier.seconds - 1, m.nanos + 1_000_000_000 - earlier.nanos,
      by have := m.seconds_lt; omega,
      by have := m.nanos_lt; have := earlier.nanos_lt; omega⟩
  else Span.zero

/-- **A later moment is exactly the span later**, when there is one. -/
theorem toNanos_add? {m n : Moment} {d : Span} (h : m.add? d = some n) :
    n.toNanos = m.toNanos + d.toNanos := by
  have := m.nanos_lt
  have := d.nanos_lt
  simp only [add?] at h
  split at h <;> split at h <;> simp only [Option.some.injEq, reduceCtorEq] at h
  all_goals
    subst h
    simp only [toNanos, Span.toNanos] at *
    omega

/-- **There is no moment so much later** exactly if its seconds overflow. -/
theorem add?_eq_none_iff {m : Moment} {d : Span} :
    m.add? d = none ↔
      0x8000_0000_0000_0000 ≤ (m.toNanos + d.toNanos) / 1_000_000_000 := by
  have := m.nanos_lt
  have := d.nanos_lt
  simp only [add?, toNanos, Span.toNanos]
  split <;> split <;> simp only [reduceCtorEq, true_iff, false_iff] <;> omega

/-- **The elapsed time is the saturating difference** of the distances. -/
theorem toNanos_since (m earlier : Moment) :
    (m.since earlier).toNanos = m.toNanos - earlier.toNanos := by
  have := m.nanos_lt
  have := earlier.nanos_lt
  simp only [since]
  split
  · simp only [toNanos, Span.toNanos] at *
    omega
  · split <;> simp only [toNanos, Span.toNanos, Span.zero] at * <;> omega

end Moment

end Herald

/-!
# Spans of time

A span is whole seconds and a nanosecond remainder, each in the range a
64-bit second counter gives it. The arithmetic below works on the two parts
separately, with a carry or a borrow between them; `toNanos` is the view in
which every operation is plain arithmetic, and each operation has the one
lemma that says so.
-/

namespace Herald

/-- A length of time: seconds in a 64-bit word and a remainder below one
second. -/
structure Span where
  seconds : Nat
  nanos : Nat
  seconds_lt : seconds < 0x1_0000_0000_0000_0000
  nanos_lt : nanos < 1_000_000_000
  deriving DecidableEq, Repr

namespace Span

/-- **The view of a span**: its length in nanoseconds. -/
def toNanos (s : Span) : Nat := s.seconds * 1_000_000_000 + s.nanos

/-- A span is fixed by its length. -/
theorem toNanos_injective {s t : Span} (h : s.toNanos = t.toNanos) : s = t := by
  obtain ⟨a, b, ha, hb⟩ := s
  obtain ⟨c, d, hc, hd⟩ := t
  simp only [toNanos] at *
  have h1 : a = c := by omega
  have h2 : b = d := by omega
  subst h1 h2
  rfl

/-- The span of no length. -/
def zero : Span := ⟨0, 0, by omega, by omega⟩

/-- A whole number of seconds. -/
def ofSeconds (n : Nat) (h : n < 0x1_0000_0000_0000_0000) : Span := ⟨n, 0, h, by omega⟩

/-- Spans are compared by their seconds, then by their remainders. -/
instance : LE Span :=
  ⟨fun a b => a.seconds < b.seconds ∨ (a.seconds = b.seconds ∧ a.nanos ≤ b.nanos)⟩

/-- The strict comparison, part by part as well. -/
instance : LT Span :=
  ⟨fun a b => a.seconds < b.seconds ∨ (a.seconds = b.seconds ∧ a.nanos < b.nanos)⟩

/-- The comparison can be decided. -/
instance (a b : Span) : Decidable (a ≤ b) :=
  inferInstanceAs
    (Decidable (a.seconds < b.seconds ∨ (a.seconds = b.seconds ∧ a.nanos ≤ b.nanos)))

/-- The strict comparison can be decided. -/
instance (a b : Span) : Decidable (a < b) :=
  inferInstanceAs
    (Decidable (a.seconds < b.seconds ∨ (a.seconds = b.seconds ∧ a.nanos < b.nanos)))

/-- **Part-wise order is order of lengths.** -/
theorem le_iff {a b : Span} : a ≤ b ↔ a.toNanos ≤ b.toNanos := by
  have ha := a.nanos_lt
  have hb := b.nanos_lt
  change (_ ∨ _) ↔ _
  simp only [toNanos]
  omega

/-- The strict order is the strict order of lengths. -/
theorem lt_iff {a b : Span} : a < b ↔ a.toNanos < b.toNanos := by
  have ha := a.nanos_lt
  have hb := b.nanos_lt
  change (_ ∨ _) ↔ _
  simp only [toNanos]
  omega

/-- A span of no length is the zero span. -/
def isZero (s : Span) : Bool := s.seconds == 0 && s.nanos == 0

/-- Whole nanoseconds in the `n`-th part of a span. Seconds and remainder are
divided each on its own; what the two divisions leave over is divided once
more, together. -/
def dividedBy (s : Span) (n : Nat) (hn : 0 < n) : Span where
  seconds := s.seconds / n
  nanos := s.nanos / n + (s.seconds % n * 1_000_000_000 + s.nanos % n) / n
  seconds_lt := Nat.lt_of_le_of_lt (Nat.div_le_self _ _) s.seconds_lt
  nanos_lt := by
    have h1 : s.nanos / n * n + s.nanos % n = s.nanos := Nat.div_add_mod' _ _
    have h2 : s.seconds % n < n := Nat.mod_lt _ hn
    have h3 := s.nanos_lt
    rw [← Nat.mul_add_div hn, Nat.div_lt_iff_lt_mul hn]
    have h4 : n * (s.nanos / n) = s.nanos / n * n := Nat.mul_comm _ _
    have h5 : (s.seconds % n + 1) * 1_000_000_000 ≤ n * 1_000_000_000 :=
      Nat.mul_le_mul_right _ h2
    have h6 : 1_000_000_000 * n = n * 1_000_000_000 := Nat.mul_comm _ _
    rw [Nat.add_mul] at h5
    omega

/-- **Division is division of lengths**, rounded down to the nanosecond. -/
theorem toNanos_dividedBy (s : Span) (n : Nat) (hn : 0 < n) :
    (s.dividedBy n hn).toNanos = s.toNanos / n := by
  have h1 : n * (s.seconds / n) + s.seconds % n = s.seconds := Nat.div_add_mod _ _
  have h2 : n * (s.nanos / n) + s.nanos % n = s.nanos := Nat.div_add_mod _ _
  have h3 : s.toNanos
      = n * (s.seconds / n * 1_000_000_000 + s.nanos / n)
        + (s.seconds % n * 1_000_000_000 + s.nanos % n) := by
    have h4 : n * (s.seconds / n * 1_000_000_000) = n * (s.seconds / n) * 1_000_000_000 :=
      (Nat.mul_assoc _ _ _).symm
    rw [toNanos, Nat.mul_add, h4]
    omega
  rw [h3, Nat.mul_add_div hn]
  simp only [toNanos, dividedBy]
  omega

/-- Twice a span, where the result has a second count that fits. -/
def twice (s : Span) (fits : 2 * s.seconds + 1 < 0x1_0000_0000_0000_0000) : Span where
  seconds := 2 * s.seconds + 2 * s.nanos / 1_000_000_000
  nanos := 2 * s.nanos % 1_000_000_000
  seconds_lt := by
    have := s.nanos_lt
    omega
  nanos_lt := Nat.mod_lt _ (by omega)

/-- **Doubling doubles the length.** -/
theorem toNanos_twice (s : Span) (fits : 2 * s.seconds + 1 < 0x1_0000_0000_0000_0000) :
    (s.twice fits).toNanos = 2 * s.toNanos := by
  simp only [toNanos, twice]
  omega

end Span

end Herald

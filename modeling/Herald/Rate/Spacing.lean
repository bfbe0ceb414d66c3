import Herald.Time.Span
/-!
# From a rate to a spacing

A rate of so many notifications per base period becomes the least spacing
between two of them: the period divided by the rate. Rates of zero and one
both give the whole period. The two periods in use are five minutes for a
domain and one minute for everything together.
-/

namespace Herald

/-- **The spacing a rate asks for**: the base period, divided by the rate
where that is above one. -/
def spacing (rate : UInt32) (base : Span) : Span :=
  if h : 1 < rate then base.dividedBy rate.toNat (by have := UInt32.lt_iff_toNat_lt.1 h; omega)
  else base

/-- The base period of one domain: five minutes. -/
def domainPeriod : Span := Span.ofSeconds 300 (by omega)

/-- The base period of all domains together: one minute. -/
def globalPeriod : Span := Span.ofSeconds 60 (by omega)

/-- The spacing is the period over the rate, with a rate of zero read as
one, rounded down to the nanosecond. -/
theorem toNanos_spacing (rate : UInt32) (base : Span) :
    (spacing rate base).toNanos = base.toNanos / max rate.toNat 1 := by
  simp only [spacing]
  split
  · next h =>
    have := UInt32.lt_iff_toNat_lt.1 h
    rw [Span.toNanos_dividedBy]
    congr 1
    have h1 : (1 : UInt32).toNat = 1 := rfl
    omega
  · next h =>
    have h1 : ¬ (1 : UInt32).toNat < rate.toNat := fun h2 => h (UInt32.lt_iff_toNat_lt.2 h2)
    have h2 : (1 : UInt32).toNat = 1 := rfl
    rw [show max rate.toNat 1 = 1 by omega, Nat.div_one]

/-- **No rate asks for no spacing at all**, where the period has more
nanoseconds than there are rates. -/
theorem toNanos_spacing_pos (rate : UInt32) {base : Span} (h : 0x1_0000_0000 ≤ base.toNanos) :
    0 < (spacing rate base).toNanos := by
  have := rate.toNat_lt
  rw [toNanos_spacing]
  exact Nat.div_pos (by omega) (by omega)

/-- A spacing has no more seconds than its period. -/
theorem seconds_spacing_le (rate : UInt32) (base : Span) :
    (spacing rate base).seconds ≤ base.seconds := by
  simp only [spacing]
  split
  · exact Nat.div_le_self _ _
  · exact Nat.le_refl _

end Herald

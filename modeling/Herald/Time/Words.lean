import Herald.Time.Span
/-!
# Spans in machine words

A machine keeps the seconds of a span in 64 bits and the nanoseconds in 32, and
divides and multiplies the two counts apart. Here every count on the way has to fit
its word, and there is no result if one does not. A division never comes to that
(`dividedInWords?_eq`), and a multiplication only where the product is no span
(`timesInWords?_eq_some_iff`).
-/

namespace Herald

/-- A count, if it is one of so many that fit a word. -/
def inWord (size n : Nat) : Option Nat := if n < size then some n else none

theorem inWord_of_lt {size n : Nat} (h : n < size) : inWord size n = some n := if_pos h

namespace Span

variable {s t : Span}

/-- So many seconds and nanoseconds, with whole seconds among the nanoseconds carried
over, if there are not too many. -/
def ofCounts? (seconds nanos : Nat) : Option Span :=
  if h : seconds + nanos / 1_000_000_000 < 0x1_0000_0000_0000_0000 then
    some ⟨seconds + nanos / 1_000_000_000, nanos % 1_000_000_000, h, Nat.mod_lt _ (by omega)⟩
  else none

/-- There is a span exactly if one has this length. -/
theorem ofCounts?_eq_some_iff {seconds nanos : Nat} :
    ofCounts? seconds nanos = some t ↔ t.toNanos = seconds * 1_000_000_000 + nanos := by
  unfold ofCounts?
  split
  · next h =>
    rw [Option.some.injEq]
    refine ⟨fun ht => ?_, fun ht => toNanos_injective ?_⟩
    · subst ht
      simp only [toNanos]
      omega
    · rw [ht]
      simp only [toNanos]
      omega
  · next h =>
    have hseconds := t.seconds_lt
    have hnanos := t.nanos_lt
    simp only [toNanos, reduceCtorEq, false_iff]
    omega

/-- **Division in words.** The seconds that are left over and the nanoseconds that are
make one count, which is divided once more. -/
def dividedInWords? (s : Span) (n : Nat) : Option Span := do
  let left ← inWord 0x1_0000_0000_0000_0000 (s.seconds % n * 1_000_000_000)
  let left ← inWord 0x1_0000_0000_0000_0000 (left + s.nanos % n)
  let extra ← inWord 0x1_0000_0000 (left / n)
  let nanos ← inWord 0x1_0000_0000 (s.nanos / n + extra)
  ofCounts? (s.seconds / n) nanos

/-- **Multiplication in words.** -/
def timesInWords? (s : Span) (n : Nat) : Option Span := do
  let nanos ← inWord 0x1_0000_0000_0000_0000 (s.nanos * n)
  let seconds ← inWord 0x1_0000_0000_0000_0000 (s.seconds * n)
  ofCounts? seconds nanos

/-- What a division by a 32-bit number has left over fits 64 bits. -/
theorem left_lt {n : Nat} (hn : 0 < n) (hn32 : n < 0x1_0000_0000) :
    s.seconds % n * 1_000_000_000 + s.nanos % n < 0x1_0000_0000_0000_0000 := by
  have hseconds : s.seconds % n < n := Nat.mod_lt _ hn
  have hnanos : s.nanos % n < n := Nat.mod_lt _ hn
  omega

/-- **A division never leaves its words**, and comes to the division of the span. -/
theorem dividedInWords?_eq {n : Nat} (hn : 0 < n) (hn32 : n < 0x1_0000_0000) :
    s.dividedInWords? n = some (s.dividedBy n hn) := by
  have hleft := s.left_lt hn hn32
  -- the nanoseconds are normal once they are added up, so nothing is carried over
  have hnanos := (s.dividedBy n hn).nanos_lt
  have hextra : (s.seconds % n * 1_000_000_000 + s.nanos % n) / n < 1_000_000_000 :=
    Nat.lt_of_le_of_lt (Nat.le_add_left _ _) hnanos
  have hsum : s.nanos / n + (s.seconds % n * 1_000_000_000 + s.nanos % n) / n < 0x1_0000_0000 :=
    Nat.lt_trans hnanos (by omega)
  simp only [dividedInWords?, Option.bind_eq_bind]
  rw [inWord_of_lt (Nat.lt_of_le_of_lt (Nat.le_add_right _ _) hleft), Option.bind_some,
    inWord_of_lt hleft, Option.bind_some, inWord_of_lt (Nat.lt_trans hextra (by omega)),
    Option.bind_some, inWord_of_lt hsum, Option.bind_some, ofCounts?_eq_some_iff]
  rfl

/-- **A multiplication leaves its words** only where the product is no span. -/
theorem timesInWords?_eq_some_iff {n : Nat} (hn32 : n < 0x1_0000_0000) :
    s.timesInWords? n = some t ↔ t.toNanos = s.toNanos * n := by
  have hnanos : s.nanos * n < 0x1_0000_0000_0000_0000 := by
    have := Nat.mul_le_mul_right n (Nat.le_of_lt s.nanos_lt)
    omega
  have hproduct : s.toNanos * n = s.seconds * n * 1_000_000_000 + s.nanos * n := by
    rw [toNanos, Nat.add_mul, Nat.mul_right_comm]
  simp only [timesInWords?, Option.bind_eq_bind]
  rw [inWord_of_lt hnanos, Option.bind_some, hproduct]
  by_cases hseconds : s.seconds * n < 0x1_0000_0000_0000_0000
  · rw [inWord_of_lt hseconds, Option.bind_some, ofCounts?_eq_some_iff]
  · have hlt := t.seconds_lt
    have hlt' := t.nanos_lt
    rw [inWord, if_neg hseconds]
    simp only [Option.bind_none, reduceCtorEq, toNanos, false_iff]
    omega

/-- **Doubling in words** is doubling, wherever twice the span is one. -/
theorem timesInWords?_two (fits : 2 * s.seconds + 1 < 0x1_0000_0000_0000_0000) :
    s.timesInWords? 2 = some (s.twice fits) := by
  rw [timesInWords?_eq_some_iff (by omega), toNanos_twice, Nat.mul_comm]

end Span

end Herald

import Herald.Proofs.Rate.Latest
import Mathlib.Algebra.Order.Floor.Div
import Mathlib.Data.List.Nodup
/-!
# How many moments fit

Where any two of some moments lie a span apart, a stretch of time holds only so
many of them. Cut the stretch into slots of the span's length, and no two of the
moments are in the same slot: there are at most as many as there are slots. That
is `length_le_of_separated` for a stretch with both its ends, and
`countWithin_le` for one without the second. The moments of `every` reach the
latter.
-/

namespace Herald

namespace Moment

variable {d length : Span} {l : List Moment} {s t start : Moment}

/-- Two moments lie a span apart, whichever of them comes first. -/
def Separate (d : Span) (s t : Moment) : Prop := Apart d s t ∨ Apart d t s

/-- Whether a moment lies in the stretch that begins at another one and ends
before so much time has passed. -/
def isWithin (start : Moment) (length : Span) (t : Moment) : Bool :=
  decide (start.toNanos ≤ t.toNanos ∧ t.toNanos < start.toNanos + length.toNanos)

/-- How many of some moments lie in such a stretch. -/
def countWithin (start : Moment) (length : Span) (l : List Moment) : Nat :=
  l.countP (start.isWithin length)

/-! ## At most so many -/

/-- **One to a slot.** Of two moments that lie a span apart, not both are in the
same slot of that span. -/
theorem slot_ne_of_separate (hpos : 0 < d.toNanos) {start : Nat} (hs : start ≤ s.toNanos)
    (ht : start ≤ t.toNanos) (h : Separate d s t) :
    (s.toNanos - start) / d.toNanos ≠ (t.toNanos - start) / d.toNanos := by
  have hlater : ∀ {a b : Nat}, a + d.toNanos ≤ b → a / d.toNanos < b / d.toNanos := by
    intro a b hab
    have hnext : (a + d.toNanos) / d.toNanos = a / d.toNanos + 1 := Nat.add_div_right a hpos
    have hle := Nat.div_le_div_right (c := d.toNanos) hab
    omega
  rcases h with h | h
  · unfold Apart at h
    exact Nat.ne_of_lt (hlater (by omega))
  · unfold Apart at h
    exact (Nat.ne_of_lt (hlater (by omega))).symm

/-- **A stretch with both ends** holds one more than its slots. -/
theorem length_le_of_separated (hpos : 0 < d.toNanos) (hsep : l.Pairwise (Separate d))
    (start stretch : Nat) (hin : ∀ t ∈ l, start ≤ t.toNanos ∧ t.toNanos ≤ start + stretch) :
    l.length ≤ stretch / d.toNanos + 1 := by
  have hnodup : (l.map fun t => (t.toNanos - start) / d.toNanos).Nodup := by
    unfold List.Nodup
    rw [List.pairwise_map]
    refine hsep.imp_of_mem fun hs ht h => ?_
    exact slot_ne_of_separate hpos (hin _ hs).1 (hin _ ht).1 h
  have hslots : (l.map fun t => (t.toNanos - start) / d.toNanos)
      ⊆ List.range (stretch / d.toNanos + 1) := by
    intro k hk
    obtain ⟨t, ht, rfl⟩ := List.mem_map.1 hk
    have hle := Nat.div_le_div_right (c := d.toNanos)
      (show t.toNanos - start ≤ stretch by have := (hin t ht).2; omega)
    rw [List.mem_range]
    omega
  have hle := hnodup.length_le_of_subset hslots
  rwa [List.length_map, List.length_range] at hle

/-- **A stretch without its second end** holds as many as its slots, the last of
which may be cut off. -/
theorem countWithin_le (hpos : 0 < d.toNanos) (hsep : l.Pairwise (Apart d))
    (start : Moment) (length : Span) :
    countWithin start length l ≤ length.toNanos ⌈/⌉ d.toNanos := by
  unfold countWithin
  rw [List.countP_eq_length_filter]
  have hin : ∀ t ∈ l.filter (start.isWithin length),
      start.toNanos ≤ t.toNanos ∧ t.toNanos < start.toNanos + length.toNanos := by
    intro t ht
    simpa [isWithin] using (List.mem_filter.1 ht).2
  rcases Nat.eq_zero_or_pos length.toNanos with hzero | hlong
  · -- nothing lies in a stretch of no length
    have hnil : l.filter (start.isWithin length) = [] := by
      refine List.eq_nil_iff_forall_not_mem.2 fun t ht => ?_
      have := hin t ht
      omega
    rw [hnil]
    exact Nat.zero_le _
  · have hle := length_le_of_separated hpos ((hsep.filter _).imp fun h => .inl h)
      start.toNanos (length.toNanos - 1) fun t ht => by have := hin t ht; omega
    have hslots : length.toNanos ⌈/⌉ d.toNanos = (length.toNanos - 1) / d.toNanos + 1 := by
      rw [Nat.ceilDiv_eq_add_pred_div, ← Nat.add_div_right _ hpos]
      congr 1
      omega
    rwa [hslots]

/-! ## And no fewer -/

/-- The moment so many nanoseconds after the start, as far as the line goes. -/
def ofNanos (n : Nat) : Moment where
  seconds := n / 1_000_000_000 % 0x8000_0000_0000_0000
  nanos := n % 1_000_000_000
  seconds_lt := by omega
  nanos_lt := by omega

/-- The moment so many nanoseconds after the start is that far from it, if the line goes that far.
-/
theorem toNanos_ofNanos {n : Nat} (h : n < 0x8000_0000_0000_0000) : (ofNanos n).toNanos = n := by
  simp only [toNanos, ofNanos]
  omega

/-- So many moments from the start on, one after each span. -/
def every (d : Span) (n : Nat) : List Moment :=
  (List.range n).map fun k => ofNanos (k * d.toNanos)

/-- Moments with a span after each lie the span apart. -/
theorem pairwise_every {n : Nat} (hfits : n * d.toNanos < 0x8000_0000_0000_0000) :
    (every d n).Pairwise (Apart d) := by
  have hbelow : ∀ k ∈ List.range n, k * d.toNanos < 0x8000_0000_0000_0000 := by
    intro k hk
    have hle : k * d.toNanos ≤ n * d.toNanos :=
      Nat.mul_le_mul_right _ (Nat.le_of_lt (List.mem_range.1 hk))
    omega
  unfold every
  rw [List.pairwise_map]
  refine List.pairwise_lt_range.imp_of_mem fun {j k} hj hk hlt => ?_
  unfold Apart
  rw [toNanos_ofNanos (hbelow j hj), toNanos_ofNanos (hbelow k hk)]
  calc j * d.toNanos + d.toNanos = (j + 1) * d.toNanos := (Nat.succ_mul _ _).symm
    _ ≤ k * d.toNanos := Nat.mul_le_mul_right _ hlt

/-- **Begun at its first end, a stretch holds as many as its slots.** -/
theorem countWithin_every (hpos : 0 < d.toNanos)
    (hfits : length.toNanos + d.toNanos < 0x8000_0000_0000_0000) :
    countWithin .start length (every d (length.toNanos ⌈/⌉ d.toNanos))
      = length.toNanos ⌈/⌉ d.toNanos := by
  have hin : ∀ t ∈ every d (length.toNanos ⌈/⌉ d.toNanos), Moment.start.isWithin length t = true := by
    intro t ht
    unfold every at ht
    obtain ⟨k, hk, rfl⟩ := List.mem_map.1 ht
    -- the slot begins within the stretch, or fewer slots would do
    have hlt : k * d.toNanos < length.toNanos := by
      by_contra hge
      have hfew : length.toNanos ⌈/⌉ d.toNanos ≤ k := by
        rw [ceilDiv_le_iff_le_mul hpos, Nat.mul_comm]
        omega
      have := List.mem_range.1 hk
      omega
    have hstart : Moment.start.toNanos = 0 := rfl
    unfold isWithin
    rw [toNanos_ofNanos (by omega), hstart, decide_eq_true_eq]
    omega
  unfold countWithin
  rw [List.countP_eq_length.2 hin]
  simp [every]

end Moment

end Herald

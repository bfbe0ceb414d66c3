/-!
# Sets of characters as ranges

A set of characters is given by ranges of code points in ascending order.
The order is what lets a search stop early, and the one law here says that
stopping early misses nothing.
-/

namespace Herald

/-- Whether a code point lies in one of some ascending ranges. The search
stops at the first range that lies wholly above it. -/
def inRanges (n : Nat) : List (Nat × Nat) → Bool
  | [] => false
  | (lo, hi) :: rest => if n < lo then false else if n ≤ hi then true else inRanges n rest

/-- Whether ranges ascend from a code point on, each with its ends in order
and behind the one before it. -/
def ascendFrom (start : Nat) : List (Nat × Nat) → Bool
  | [] => true
  | (lo, hi) :: rest => decide (start ≤ lo) && decide (lo ≤ hi) && ascendFrom (hi + 1) rest

/-- Ascending ranges lie behind their start. -/
theorem le_of_mem_of_ascendFrom {start : Nat} {rs : List (Nat × Nat)}
    (h : ascendFrom start rs = true) : ∀ r ∈ rs, start ≤ r.1 := by
  induction rs generalizing start with
  | nil => simp
  | cons r rest ih =>
    obtain ⟨lo, hi⟩ := r
    simp only [ascendFrom, Bool.and_eq_true, decide_eq_true_eq] at h
    intro r hr
    rcases List.mem_cons.1 hr with rfl | hr
    · exact h.1.1
    · have := ih h.2 r hr
      omega

/-- **The search finds what is there**, in ranges that ascend. -/
theorem inRanges_iff {start n : Nat} {rs : List (Nat × Nat)} (h : ascendFrom start rs = true) :
    inRanges n rs = true ↔ ∃ r ∈ rs, r.1 ≤ n ∧ n ≤ r.2 := by
  induction rs generalizing start with
  | nil => simp [inRanges]
  | cons r rest ih =>
    obtain ⟨lo, hi⟩ := r
    simp only [ascendFrom, Bool.and_eq_true, decide_eq_true_eq] at h
    simp only [inRanges, List.mem_cons, exists_eq_or_imp]
    split
    · next hlo =>
      constructor
      · intro hf
        cases hf
      · rintro (⟨h1, _⟩ | ⟨r, hr, h1, _⟩)
        · omega
        · have := le_of_mem_of_ascendFrom h.2 r hr
          omega
    · next hlo =>
      split
      · next hhi =>
        exact ⟨fun _ => Or.inl ⟨by omega, hhi⟩, fun _ => rfl⟩
      · next hhi =>
        rw [ih h.2]
        constructor
        · exact Or.inr
        · rintro (⟨_, h2⟩ | h')
          · omega
          · exact h'

end Herald

import Herald.Dispatch.Counters
import Herald.Proofs.Number.Rounding
/-!
# The share of denied checks

The total of the checks saturates and the number of denied ones overflows, so near the
largest counter the two are not made of the same sums. Wherever there is a share it is
one all the same: a number of denied checks that fits is no larger than the total
(`Counters.denied_le_checks`), and rounding both to doubles keeps that order, so the
quotient stays at or below one. It is nothing only if nothing was denied, because a
single denied check of all that can be counted is far above the least double.
-/

namespace Herald

open Binary64

/-- **A quotient of whole numbers as doubles**: each of them is rounded, neither becomes
infinite, there is something to divide by, and their ratio is rounded again. -/
structure IsDoubleQuotient (a b : Nat) (part whole x : Binary64) : Prop where
  rounds_part : part.Rounds (a * unitsPerOne) 1
  rounds_whole : whole.Rounds (b * unitsPerOne) 1
  part_finite : part.isInfinite = false
  whole_finite : whole.isInfinite = false
  whole_ne_zero : whole.units ≠ 0
  rounds : x.Rounds (part.units * unitsPerOne) whole.units

namespace Counters

variable {c : Counters}

/-- Denied checks, be they more than a counter holds. -/
def denied (c : Counters) : Nat := c.blockedByGlobal.toNat + c.blockedByDomain.toNat

/-- **A double is the share of denied checks.** No more checks were denied than made; if
any were made, it is their quotient; and it lies between nothing and one, and is
nothing if none was denied and only then. -/
structure IsShare (c : Counters) (x : Binary64) : Prop where
  denied_le : c.denied ≤ c.checks.toNat
  quotient : c.checks ≠ 0 →
    ∃ part whole, IsDoubleQuotient c.denied c.checks.toNat part whole x
  finite : x.isInfinite = false
  le_one : x.units ≤ one.units
  eq_zero_iff : x.units = 0 ↔ c.denied = 0

theorem blockRate_eq (c : Counters) :
    c.blockRate =
      if c.checks = 0 then .ok (.ofNat 0)
      else if c.denied < 0x1_0000_0000_0000_0000
        then .ok ((Binary64.ofNat c.denied).div (.ofNat c.checks.toNat))
        else .error .overflow := rfl

/-- **Denied checks that fit are counted among the checks**, also where the total is cut
off. -/
theorem denied_le_checks (h : c.denied < 0x1_0000_0000_0000_0000) :
    c.denied ≤ c.checks.toNat := by
  rw [toNat_checks]
  unfold denied at *
  omega

/-- If no check was made none was denied. -/
theorem denied_eq_zero_of_checks (h : c.checks = 0) : c.denied = 0 := by
  have htotal : c.checks.toNat = 0 := by
    rw [h]
    rfl
  rw [toNat_checks] at htotal
  unfold denied
  omega

/-- No checks have a share of nothing. -/
theorem isShare_of_no_checks (h : c.checks = 0) : c.IsShare (.ofNat 0) where
  denied_le := by simp [denied_eq_zero_of_checks h]
  quotient hne := absurd h hne
  finite := (rounds_ofNat 0).stored.isInfinite_eq_false (isDouble_full 1022) rfl (by simp)
  le_one := by simp
  eq_zero_iff := by simp [denied_eq_zero_of_checks h]

/-- **The quotient is a share** if the denied checks fit a counter. -/
theorem isShare_div (hchecks : c.checks ≠ 0) (hfits : c.denied < 0x1_0000_0000_0000_0000) :
    c.IsShare ((Binary64.ofNat c.denied).div (.ofNat c.checks.toNat)) := by
  have htotal : 0 < c.checks.toNat :=
    Nat.pos_of_ne_zero fun h => hchecks (UInt64.toNat_inj.1 h)
  have hle := denied_le_checks hfits
  have hpart := ofNat_le_wordSize hfits
  have hwhole := ofNat_le_wordSize c.checks.toNat_lt
  have hone := unitsPerOne_le_ofNat htotal
  have hpos : 0 < (Binary64.ofNat c.checks.toNat).units :=
    Nat.lt_of_lt_of_le unitsPerOne_pos hone
  have hshare := div_le_one hpos (ofNat_le_ofNat hle)
  have hrounds := rounds_div (.ofNat c.denied) hpos
  refine
    { denied_le := hle
      quotient := fun _ => ⟨_, _,
        { rounds_part := rounds_ofNat _
          rounds_whole := rounds_ofNat _
          part_finite :=
            (rounds_ofNat _).stored.isInfinite_eq_false (isDouble_full 1086) rfl hpart
          whole_finite :=
            (rounds_ofNat _).stored.isInfinite_eq_false (isDouble_full 1086) rfl hwhole
          whole_ne_zero := Nat.ne_of_gt hpos
          rounds := hrounds }⟩
      finite := hrounds.stored.isInfinite_eq_false (isDouble_full 1022) rfl hshare
      le_one := hshare
      eq_zero_iff := ⟨fun hzero => ?_, fun hnone => ?_⟩ }
  · refine Nat.eq_zero_of_not_pos fun hdenied => ?_
    -- one denied check has more units in the units of one than all checks can have
    have hlarge : wordSize.units ≤ unitsPerOne * unitsPerOne := by
      rw [units_wordSize]
      exact Nat.mul_le_mul_right _ (by decide +kernel)
    have hunit := Nat.mul_le_mul_right unitsPerOne (unitsPerOne_le_ofNat hdenied)
    have hsome := div_pos hpos (hwhole.trans (hlarge.trans hunit))
    omega
  · rw [hnone] at *
    exact div_eq_zero hpos units_ofNat_zero

end Counters

/-- **The block rate is a share wherever there is one.** Whatever the counters are, the
checks are the sum of the three answers, up to the largest counter; there is no rate
exactly if the denied ones alone are more than a counter holds; and in all other cases
it is the share of denied checks. -/
theorem block_rate_is_a_share (c : Counters) :
    c.checks.toNat = min
        (c.admitted.toNat + c.blockedByGlobal.toNat + c.blockedByDomain.toNat)
        0xffff_ffff_ffff_ffff ∧
      (c.blockRate = .error .overflow ↔ 0x1_0000_0000_0000_0000 ≤ c.denied) ∧
      (c.denied < 0x1_0000_0000_0000_0000 → ∃ x, c.blockRate = .ok x ∧ c.IsShare x) := by
  refine ⟨c.toNat_checks, ?_, fun hfits => ?_⟩
  · rw [c.blockRate_eq]
    by_cases hchecks : c.checks = 0
    · have := Counters.denied_eq_zero_of_checks hchecks
      rw [if_pos hchecks]
      simp only [reduceCtorEq, false_iff]
      omega
    · rw [if_neg hchecks]
      split
      · simp only [reduceCtorEq, false_iff]
        omega
      · simp only [true_iff]
        omega
  · rw [c.blockRate_eq]
    by_cases hchecks : c.checks = 0
    · exact ⟨_, if_pos hchecks, Counters.isShare_of_no_checks hchecks⟩
    · rw [if_neg hchecks, if_pos hfits]
      exact ⟨_, rfl, Counters.isShare_div hchecks hfits⟩

/-- With as many checks denied as a counter holds, and as many admitted, all of them
count as denied: the total is cut off, and the share is one. -/
theorem block_rate_of_full_counters :
    let c : Counters :=
      ⟨0xffff_ffff_ffff_ffff, 0x8000_0000_0000_0000, 0x7fff_ffff_ffff_ffff, 0, 0, 0, 0⟩
    c.checks.toNat = 0xffff_ffff_ffff_ffff ∧ c.denied = 0xffff_ffff_ffff_ffff ∧
      c.blockRate = .ok one ∧ c.IsShare one := by
  intro c
  have hrate : c.blockRate = .ok one := by decide +kernel
  obtain ⟨hchecks, -, hshare⟩ := block_rate_is_a_share c
  obtain ⟨x, hx, hshare⟩ := hshare (by decide +kernel)
  rw [hrate] at hx
  cases hx
  exact ⟨hchecks.trans (by decide +kernel), by decide +kernel, hrate, hshare⟩

end Herald

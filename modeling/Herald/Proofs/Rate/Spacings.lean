import Herald.Proofs.Rate.Latest
import Herald.Time.Words
/-!
# Spacings are exact

The spacing of a rate is the period over the rate to the nanosecond, and working it
out in machine words comes to the same (`spacingInWords?_eq`). Of the two periods in
use each has more nanoseconds than there are rates, so no rate is so high that nothing
is left of it: no gate stands open, and there is room to double a spacing for the
pruning.
-/

namespace Herald

/-- The spacing a rate asks for, worked out in words. -/
def spacingInWords? (rate : UInt32) (base : Span) : Option Span :=
  if 1 < rate then base.dividedInWords? rate.toNat else some base

/-- **Working out a spacing never leaves the words**, whatever the rate and the
period. -/
theorem spacingInWords?_eq (rate : UInt32) (base : Span) :
    spacingInWords? rate base = some (spacing rate base) := by
  have hfits := rate.toNat_lt
  unfold spacingInWords? spacing
  split
  · next h => exact Span.dividedInWords?_eq _ hfits
  · rfl

/-- **A higher rate never asks for a longer spacing.** -/
theorem spacing_le_spacing {rate faster : UInt32} (h : rate ≤ faster) (base : Span) :
    spacing faster base ≤ spacing rate base := by
  have hle : rate.toNat ≤ faster.toNat := UInt32.le_iff_toNat_le.1 h
  rw [Span.le_iff, toNanos_spacing, toNanos_spacing]
  exact Nat.div_le_div_left (by omega) (by omega)

/-- **A spacing a gate can keep**: it has a length, so a window is not open again at
the moment it was opened at, and twice of it is still a span. -/
structure Span.KeepsApart (d : Span) : Prop where
  positive : zero < d
  shuts : ∀ now, (RateWindow.openedAt now).isOpen now d = false
  doubles : ∃ t, d.timesInWords? 2 = some t ∧ t.toNanos = 2 * d.toNanos

/-- **Every rate asks for a spacing that can be kept**, of a period that has more
nanoseconds than there are rates and fewer seconds than half of those there are. -/
theorem keepsApart_spacing (rate : UInt32) {base : Span} (hlong : 0x1_0000_0000 ≤ base.toNanos)
    (hshort : 2 * base.seconds + 1 < 0x1_0000_0000_0000_0000) :
    (spacing rate base).KeepsApart := by
  have hpos := toNanos_spacing_pos rate hlong
  have hle := seconds_spacing_le rate base
  have hfits : 2 * (spacing rate base).seconds + 1 < 0x1_0000_0000_0000_0000 := by omega
  exact
    { positive := Span.lt_iff.2 hpos
      shuts := RateWindow.isOpen_openedAt hpos
      doubles := ⟨_, Span.timesInWords?_two hfits, Span.toNanos_twice _ hfits⟩ }

/-- **Spacings are exact, and safe at every rate.** The spacing of a rate, worked out
in words, is a span, and its length is the period's over the rate, rounded down to the
nanosecond, where a rate of zero counts as one. The higher the rate, the shorter it
is, if anything. Of the periods of the two gates it is never nothing, and what a prune
works out as twice of it is the age a window may have. -/
theorem spacings_are_exact_and_safe :
    (∀ (rate : UInt32) (base : Span),
      spacingInWords? rate base = some (spacing rate base) ∧
        (spacing rate base).toNanos = base.toNanos / max rate.toNat 1 ∧
        (spacing rate base).nanos < 1_000_000_000 ∧
        ∀ faster : UInt32, rate ≤ faster → spacing faster base ≤ spacing rate base) ∧
      (∀ g : DomainGate, g.spacing = spacing g.rate domainPeriod ∧ g.spacing.KeepsApart ∧
        g.spacing.timesInWords? 2 = some g.maxAge) ∧
      ∀ g : GlobalGate, g.spacing = spacing g.rate globalPeriod ∧ g.spacing.KeepsApart := by
  refine ⟨fun rate base => ⟨spacingInWords?_eq rate base, toNanos_spacing rate base,
    (spacing rate base).nanos_lt, fun _ hle => spacing_le_spacing hle base⟩,
    fun g => ⟨rfl, keepsApart_spacing g.rate (by decide) (by decide),
      Span.timesInWords?_two g.spacing_twice_fits⟩,
    fun g => ⟨rfl, keepsApart_spacing g.rate (by decide) (by decide)⟩⟩

/-- At the highest rate there is a domain has 69 nanoseconds to itself, fewer than at
a rate of seven, and everybody together 13. -/
theorem spacings_are_exact_and_safe_at_the_highest_rate :
    let seven := spacing 7 domainPeriod
    let highest := spacing 0xffff_ffff domainPeriod
    (7 : UInt32) ≤ 0xffff_ffff ∧ highest ≤ seven ∧ seven.toNanos = 42_857_142_857 ∧
      highest.toNanos = 69 ∧ (spacing 0xffff_ffff globalPeriod).toNanos = 13 := by
  intro seven highest
  obtain ⟨hexact, -⟩ := spacings_are_exact_and_safe
  have hle : (7 : UInt32) ≤ 0xffff_ffff := by decide
  obtain ⟨-, hseven, -, hshorter⟩ := hexact 7 domainPeriod
  exact ⟨hle, hshorter _ hle, hseven, (hexact 0xffff_ffff domainPeriod).2.1,
    (hexact 0xffff_ffff globalPeriod).2.1⟩

end Herald

import Herald.Proofs.Dispatch.History
import Herald.Proofs.Rate.Spread
/-!
# How many domains are tracked

Domains come without end, and each that is admitted gets a window. Still there
are only so many windows, since each of them was paid for by an admission of the
global gate, and these lie a global spacing apart. `PaidFor` says so of the two
gates, and every step keeps it: an admission puts its window a global spacing
behind all others, a denial by the domain pays for nothing, a prune takes windows
away. What a prune leaves was admitted in the last two domain spacings, so it is
a matter of counting how many moments fit (`PaidFor.size_prune_le`).
-/

namespace Herald

namespace RateWindow

/-- An open window was last moved a spacing ago. -/
theorem apart_of_isOpen {w : RateWindow} {now : Moment} {d : Span} (hpos : 0 < d.toNanos)
    (h : w.isOpen now d = true) : Moment.Apart d w.lastAdmitted now := by
  rw [isOpen_iff] at h
  unfold Moment.Apart
  omega

end RateWindow

variable {g : GlobalGate} {dg : DomainGate} {x : String} {now : Moment}

/-- **The windows of the domains are paid for**: none is later than the window of
the global gate, and any two lie a global spacing apart. -/
structure PaidFor (g : GlobalGate) (dg : DomainGate) : Prop where
  before : ∀ x w, dg.window x = some w →
    ∃ v, g.window = some v ∧ w.lastAdmitted.toNanos ≤ v.lastAdmitted.toNanos
  separate : ∀ x y v w, x ≠ y → dg.window x = some v → dg.window y = some w →
    Moment.Separate g.spacing v.lastAdmitted w.lastAdmitted

namespace PaidFor

/-- New gates have no windows. -/
theorem ofRate (rate rate' : UInt32) : PaidFor (.ofRate rate) (.ofRate rate') where
  before _ _ hw := nomatch hw
  separate _ _ _ _ _ hv := nomatch hv

/-- Where the global gate lets a check through, all windows lie a global spacing
back. -/
theorem apart_of_passed (h : PaidFor g dg) (passed : (g.check now).1 = true) {w : RateWindow}
    (hw : dg.window x = some w) : Moment.Apart g.spacing w.lastAdmitted now := by
  obtain ⟨v, hv, hle⟩ := h.before x w hw
  have hapart := RateWindow.apart_of_isOpen g.spacing_pos
    (GlobalGate.check_admitted_iff.1 passed v hv)
  unfold Moment.Apart at *
  omega

/-- A check that passes the global gate alone pays for nothing, and what was paid
for stays so. -/
theorem pass (h : PaidFor g dg) (passed : (g.check now).1 = true) :
    PaidFor (g.setWindow (some (.openedAt now))) dg where
  before x w hw := by
    have hapart := h.apart_of_passed passed hw
    refine ⟨_, g.window_setWindow _, ?_⟩
    unfold Moment.Apart at hapart
    show w.lastAdmitted.toNanos ≤ now.toNanos
    omega
  separate := h.separate

/-- **An admission pays for the window it makes**, which lies a global spacing
behind all others. -/
theorem admission (h : PaidFor g dg) (passed : (g.check now).1 = true)
    (admitted : (dg.check x now).1 = true) :
    PaidFor (g.setWindow (some (.openedAt now))) (dg.check x now).2 where
  before y w hw := by
    rw [DomainGate.window_check_admitted admitted] at hw
    by_cases hy : y = x
    · rw [if_pos hy, Option.some.injEq] at hw
      subst hw
      exact ⟨_, g.window_setWindow _, Nat.le_refl _⟩
    · rw [if_neg hy] at hw
      exact (h.pass passed).before y w hw
  separate y z v w hne hv hw := by
    rw [DomainGate.window_check_admitted admitted] at hv hw
    -- one of the two may be the window that was just made
    by_cases hy : y = x
    · have hz : z ≠ x := fun hz => hne (hy.trans hz.symm)
      rw [if_pos hy, Option.some.injEq] at hv
      rw [if_neg hz] at hw
      subst hv
      exact .inr (h.apart_of_passed passed hw)
    · rw [if_neg hy] at hv
      by_cases hz : z = x
      · rw [if_pos hz, Option.some.injEq] at hw
        subst hw
        exact .inl (h.apart_of_passed passed hv)
      · rw [if_neg hz] at hw
        exact h.separate y z v w hne hv hw

/-- A failed check leaves all windows as they are. -/
theorem poison (h : PaidFor g dg) : PaidFor g.poison dg where
  before x w hw := by
    rw [GlobalGate.window_poison]
    exact h.before x w hw
  separate := h.separate

/-- A prune takes windows away and leaves the others as they are. -/
theorem prune (h : PaidFor g dg) (now : Moment) : PaidFor g (dg.prune now).2 where
  before x w hw := by
    rw [DomainGate.window_prune, Option.filter_eq_some_iff] at hw
    exact h.before x w hw.1
  separate x y v w hne hv hw := by
    rw [DomainGate.window_prune, Option.filter_eq_some_iff] at hv hw
    exact h.separate x y v w hne hv.1 hw.1

/-- **What a prune leaves can be counted.** The windows lie in the last two domain
spacings, a global spacing apart. -/
theorem size_prune_le (h : PaidFor g dg)
    (hpast : ∀ v, g.window = some v → v.lastAdmitted.toNanos ≤ now.toNanos) :
    (dg.prune now).2.size ≤ 2 * dg.spacing.toNanos / g.spacing.toNanos + 1 := by
  have hentry : ∀ e ∈ (dg.prune now).2.windows.entries,
      dg.window e.1 = some e.2 ∧ e.2.isStale now dg.maxAge = false := by
    intro e he
    rw [DomainGate.entries_prune, List.mem_filter] at he
    exact ⟨Store.get?_eq_some_iff.2 he.1, by simpa using he.2⟩
  have hkeys : (dg.prune now).2.windows.entries.Pairwise fun e e' => e.1 ≠ e'.1 :=
    List.pairwise_map.1 (dg.prune now).2.windows.keys_nodup
  have hsep : ((dg.prune now).2.windows.entries.map fun e => e.2.lastAdmitted).Pairwise
      (Moment.Separate g.spacing) := by
    rw [List.pairwise_map]
    refine hkeys.imp_of_mem fun he he' hne => ?_
    exact h.separate _ _ _ _ hne (hentry _ he).1 (hentry _ he').1
  have hin : ∀ t ∈ (dg.prune now).2.windows.entries.map fun e => e.2.lastAdmitted,
      now.toNanos - 2 * dg.spacing.toNanos ≤ t.toNanos
        ∧ t.toNanos ≤ now.toNanos - 2 * dg.spacing.toNanos + 2 * dg.spacing.toNanos := by
    intro t ht
    obtain ⟨e, he, rfl⟩ := List.mem_map.1 ht
    obtain ⟨hw, hfresh⟩ := hentry e he
    obtain ⟨v, hv, hle⟩ := h.before e.1 e.2 hw
    have hnow := hpast v hv
    rw [← Bool.not_eq_true, RateWindow.isStale_iff, DomainGate.toNanos_maxAge] at hfresh
    omega
  have hcount := Moment.length_le_of_separated g.spacing_pos hsep _ _ hin
  rwa [List.length_map] at hcount

end PaidFor

namespace Service

variable {s : Service}

/-! ## Steps and runs -/

/-- **Every step keeps windows paid for.** -/
theorem paidFor_step (c : Command) (h : PaidFor s.dispatcher.globalGate s.dispatcher.domainGate) :
    PaidFor (s.step c).2.dispatcher.globalGate (s.step c).2.dispatcher.domainGate := by
  have hstep := s.gateStep c
  generalize Check.of? s.clock.time c (s.step c).1 = made at hstep
  cases hstep with
  | check went gates clock =>
    rw [Dispatcher.globalGate_of_gates gates, Dispatcher.domainGate_of_gates gates]
    cases went with
    | blockedByGlobal closed => exact h
    | blockedByDomain passed closed => exact h.pass passed
    | admitted passed admitted => exact h.admission passed admitted
  | prune isPrune gates clock =>
    rw [Dispatcher.globalGate_of_gates gates, Dispatcher.domainGate_of_gates gates,
      Dispatcher.globalGate_pruneAt, Dispatcher.domainGate_pruneAt]
    exact h.prune s.clock.time
  | failed gates =>
    rw [Dispatcher.globalGate_of_gates gates, Dispatcher.domainGate_of_gates gates]
    exact h.poison
  | idle gates =>
    rw [Dispatcher.globalGate_of_gates gates, Dispatcher.domainGate_of_gates gates]
    exact h

/-- The global gate was last passed at a moment gone by. -/
def PassedBefore (s : Service) : Prop :=
  ∀ v, s.dispatcher.globalGate.window = some v → v.lastAdmitted.toNanos ≤ s.clock.time.toNanos

/-- That the gate was last passed at a moment gone by stays so where the clock does not turn back.
-/
theorem PassedBefore.step (h : s.PassedBefore) {c : Command}
    (hclock : s.clock.time.toNanos ≤ (s.step c).2.clock.time.toNanos) :
    (s.step c).2.PassedBefore := by
  intro v hv
  refine Nat.le_trans ?_ hclock
  have hstep := s.gateStep c
  generalize Check.of? s.clock.time c (s.step c).1 = made at hstep
  cases hstep with
  | check went gates clock =>
    rw [Dispatcher.globalGate_of_gates gates] at hv
    cases went with
    | blockedByGlobal closed => exact h v hv
    | blockedByDomain passed closed =>
      obtain rfl := Option.some.inj ((GlobalGate.window_setWindow _ _).symm.trans hv)
      exact Nat.le_refl _
    | admitted passed admitted =>
      obtain rfl := Option.some.inj ((GlobalGate.window_setWindow _ _).symm.trans hv)
      exact Nat.le_refl _
  | prune isPrune gates clock =>
    rw [Dispatcher.globalGate_of_gates gates, Dispatcher.globalGate_pruneAt] at hv
    exact h v hv
  | failed gates =>
    rw [Dispatcher.globalGate_of_gates gates, Dispatcher.poison, GlobalGate.window_poison] at hv
    exact h v hv
  | idle gates =>
    rw [Dispatcher.globalGate_of_gates gates] at hv
    exact h v hv

/-- After a run on a clock that does not turn back the gate was last passed at a moment gone by. -/
theorem PassedBefore.after (h : s.PassedBefore) {cs : List Command} (hclock : s.MovesForward cs) :
    (s.after cs).PassedBefore := by
  induction cs generalizing s with
  | nil => exact h
  | cons c cs ih => exact ih (h.step hclock.1) hclock.2

/-- No run changes the spacings. -/
theorem spacings_after (s : Service) (cs : List Command) :
    (s.after cs).dispatcher.globalGate.spacing = s.dispatcher.globalGate.spacing
      ∧ (s.after cs).dispatcher.domainGate.spacing = s.dispatcher.domainGate.spacing :=
  invariant_after
    (P := fun s' => s'.dispatcher.globalGate.spacing = s.dispatcher.globalGate.spacing
      ∧ s'.dispatcher.domainGate.spacing = s.dispatcher.domainGate.spacing)
    ⟨rfl, rfl⟩
    (fun s' c h => ⟨((s'.spacings_step c).1).trans h.1, ((s'.spacings_step c).2).trans h.2⟩) cs

end Service

/-- **Tracked domains are bounded by the rates.** In every run of a new service, any
two windows of domains lie a global spacing apart. Where the clock has not turned
back and gives a reading, a prune is answered and leaves at most as many domains
as there are global spacings in two domain spacings, and one more. -/
theorem tracked_domains_are_bounded (settings : Settings) (product endpoint : String) (c : Clock)
    (cs : List Command) :
    let s₀ := Service.begin (.ofSettings settings product endpoint) c
    let s := s₀.after cs
    let domainSpacing := (spacing settings.domainRate domainPeriod).toNanos
    let globalSpacing := (spacing settings.globalRate globalPeriod).toNanos
    (∀ x y v w, x ≠ y → s.dispatcher.domainGate.window x = some v →
      s.dispatcher.domainGate.window y = some w →
        Moment.Separate (spacing settings.globalRate globalPeriod) v.lastAdmitted w.lastAdmitted) ∧
      (s₀.MovesForward cs → ∀ now k, s.clock.read = (.ok now, k) →
        ∃ n, (s.step .prune).1 = .removed n ∧
          (s.step .prune).2.dispatcher.tracked ≤ 2 * domainSpacing / globalSpacing + 1) := by
  intro s₀ s domainSpacing globalSpacing
  have hpaid : PaidFor s.dispatcher.globalGate s.dispatcher.domainGate :=
    Service.invariant_after
      (P := fun s => PaidFor s.dispatcher.globalGate s.dispatcher.domainGate)
      (.ofRate settings.globalRate settings.domainRate) (fun _ c h => Service.paidFor_step c h) cs
  obtain ⟨hglobal, hdomain⟩ := s₀.spacings_after cs
  refine ⟨fun x y v w hne hv hw => ?_, fun hclock now k hread => ?_⟩
  · have hsep := hpaid.separate x y v w hne hv hw
    rwa [hglobal] at hsep
  · have hnew : s₀.PassedBefore := fun v hv => nomatch hv
    have hpast := hnew.after hclock
    obtain ⟨rfl, rfl, -⟩ := Clock.read_ok hread
    have hcount := hpaid.size_prune_le hpast
    rw [hglobal, hdomain] at hcount
    rw [Service.step_prune_eq, hread]
    refine ⟨_, rfl, ?_⟩
    unfold Dispatcher.tracked
    show (s.dispatcher.pruneAt s.clock.time).2.domainGate.size ≤ _
    rw [Dispatcher.domainGate_pruneAt]
    exact hcount

/-- At one admission a minute and one of a domain in five minutes: three domains are
admitted a minute apart, and a prune leaves the two that are not stale. -/
theorem tracked_domains_are_bounded_past_a_prune :
    let s₀ := Service.begin (.ofSettings .default "" "") .fresh
    let minute : Span := .ofSeconds 60 (by decide)
    let cs : List Command := [.check "a", .advance minute, .check "b", .advance minute, .check "c",
      .advance (.ofSeconds 481 (by decide))]
    let s := s₀.after cs
    s₀.MovesForward cs ∧ s.dispatcher.tracked = 3 ∧ (s.step .prune).2.dispatcher.tracked = 2 ∧
      (s.step .prune).2.dispatcher.tracked ≤ 11 := by
  intro s₀ minute cs s
  have hclock : s₀.MovesForward cs := by decide +kernel
  obtain ⟨-, hbound⟩ := tracked_domains_are_bounded .default "" "" .fresh cs
  have hread : s.clock.read = (.ok s.clock.time, s.clock) :=
    Clock.read_sound (by decide +kernel) (by decide +kernel)
  obtain ⟨n, -, hle⟩ := hbound hclock _ _ hread
  have hlimit : 2 * (spacing Settings.default.domainRate domainPeriod).toNanos
      / (spacing Settings.default.globalRate globalPeriod).toNanos + 1 = 11 := by decide +kernel
  rw [hlimit] at hle
  refine ⟨hclock, by decide +kernel, by decide +kernel, ?_⟩
  simpa only [s, s₀] using hle

end Herald

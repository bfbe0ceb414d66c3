import Herald.Dispatch.Shared
import Herald.Proofs.Dispatch.Sides
import Herald.Proofs.Rate.Latest
/-!
# Rates under any interleaving

However the steps of callers come between each other, the global gate lets
checks through at least a spacing apart, a domain is admitted at least a
spacing apart, and no prune removes a window that still denies something.
The reason is that a gate is asked and moved in one step with a reading of its
own. What a step can do is said once, in `Changes`; `Spaced` is the invariant
it keeps. Its last clause, that a prune started in the past, is all that has to
be known of the one moment a prune keeps using.
-/

namespace Herald

namespace SharedDispatcher

variable {ι : Type} {w w' : SharedDispatcher ι}

/-! ## What a step can do -/

/-- What a step can do to the gates and the record of what they let through. -/
inductive GateChange (w w' : SharedDispatcher ι) : Prop
  /-- The global gate lets a check pass at the present moment. -/
  | pass (passed : (w.dispatcher.globalGate.check w.clock.time).1 = true)
      (globalGate : w'.dispatcher.globalGate
        = w.dispatcher.globalGate.setWindow (some (.openedAt w.clock.time)))
      (domainGate : w'.dispatcher.domainGate = w.dispatcher.domainGate)
      (passes : w'.passes = w.passes ++ [w.clock.time])
      (admissions : w'.admissions = w.admissions)
  /-- A domain is admitted at the present moment. -/
  | admission (domain : String)
      (admitted : (w.dispatcher.domainGate.check domain w.clock.time).1 = true)
      (globalGate : w'.dispatcher.globalGate = w.dispatcher.globalGate)
      (domainGate : w'.dispatcher.domainGate
        = (w.dispatcher.domainGate.check domain w.clock.time).2)
      (passes : w'.passes = w.passes)
      (admissions : w'.admissions = w.admissions ++ [(domain, w.clock.time)])
  /-- A prune visits an entry, with the moment it started at. -/
  | visit (i : ι) (domain : String) (started : Moment) (removed : Nat)
      (standing : w.caller i = .pruning started removed)
      (globalGate : w'.dispatcher.globalGate = w.dispatcher.globalGate)
      (domainGate : w'.dispatcher.domainGate
        = w.dispatcher.domainGate.pruneEntry domain started)
      (passes : w'.passes = w.passes) (admissions : w'.admissions = w.admissions)
  /-- A check gets no reading at the global gate, and leaves its lock poisoned. -/
  | failed (globalGate : w'.dispatcher.globalGate = w.dispatcher.globalGate.poison)
      (domainGate : w'.dispatcher.domainGate = w.dispatcher.domainGate)
      (passes : w'.passes = w.passes) (admissions : w'.admissions = w.admissions)
  /-- Nothing. -/
  | idle (globalGate : w'.dispatcher.globalGate = w.dispatcher.globalGate)
      (domainGate : w'.dispatcher.domainGate = w.dispatcher.domainGate)
      (passes : w'.passes = w.passes) (admissions : w'.admissions = w.admissions)

/-- **What a step can do.** Besides what it does to the gates, it may turn the
clock forward, and the prunes it leaves running have started by then. -/
structure Changes (w w' : SharedDispatcher ι) : Prop where
  gates : GateChange w w'
  time_le : w.clock.time.toNanos ≤ w'.clock.time.toNanos
  pruning : ∀ j m n, w'.caller j = .pruning m n →
    m = w.clock.time ∨ ∃ n', w.caller j = .pruning m n'

/-- What is no step does nothing. -/
theorem Changes.refl (w : SharedDispatcher ι) : Changes w w where
  gates := .idle rfl rfl rfl rfl
  time_le := Nat.le_refl _
  pruning _ _ n h := .inr ⟨n, h⟩

variable [DecidableEq ι]

/-- A caller who moves on starts a prune at the present moment, if any. -/
theorem pruning_of_place {i : ι} {q : Caller} {now : Moment}
    (hq : ∀ m n, q = .pruning m n → m = now ∨ ∃ n', w.caller i = .pruning m n')
    (j : ι) (m : Moment) (n : Nat) (hj : w.place i q j = .pruning m n) :
    m = now ∨ ∃ n', w.caller j = .pruning m n' := by
  simp only [place] at hj
  split at hj
  · next hji => exact hji ▸ hq m n hj
  · exact .inr ⟨n, hj⟩

theorem changes_askGlobal (w : SharedDispatcher ι) (i : ι) (domain : String) :
    Changes w (w.askGlobal i domain) := by
  simp only [askGlobal, Dispatcher.askGlobal_eq]
  rcases hr : w.clock.read with ⟨f | now, c⟩
  · exact ⟨.failed rfl rfl rfl rfl, Nat.le_of_eq (congrArg _ (Clock.time_read hr).symm),
      fun _ _ n h => .inr ⟨n, h⟩⟩
  · obtain ⟨rfl, rfl, -⟩ := Clock.read_ok hr
    simp only [Dispatcher.passGlobal_fst]
    cases hpass : (w.dispatcher.globalGate.check w.clock.time).1 with
    | true =>
      have hgate := GlobalGate.check_admitted hpass
      exact ⟨.pass hpass (by rw [Dispatcher.globalGate_passGlobal, hgate])
        (Dispatcher.domainGate_passGlobal _ _) rfl rfl, Nat.le_refl _,
        pruning_of_place (by simp)⟩
    | false =>
      have hgate := GlobalGate.check_denied hpass
      exact ⟨.idle (by rw [Dispatcher.globalGate_passGlobal, hgate])
        (Dispatcher.domainGate_passGlobal _ _) rfl rfl, Nat.le_refl _,
        fun _ _ n h => .inr ⟨n, h⟩⟩

theorem changes_askDomain (w : SharedDispatcher ι) (i : ι) (domain : String) :
    Changes w (w.askDomain i domain) := by
  simp only [askDomain, Dispatcher.askDomain_eq]
  rcases hr : w.clock.read with ⟨f | now, c⟩
  · exact ⟨.idle rfl rfl rfl rfl, Nat.le_of_eq (congrArg _ (Clock.time_read hr).symm),
      pruning_of_place (by simp)⟩
  · obtain ⟨rfl, rfl, -⟩ := Clock.read_ok hr
    simp only [Dispatcher.passDomain_isAdmitted]
    by_cases hadm : (w.dispatcher.domainGate.check domain w.clock.time).1 = true
    · simp only [if_pos hadm]
      exact ⟨.admission domain hadm (Dispatcher.globalGate_passDomain _ _ _)
        (Dispatcher.domainGate_passDomain _ _ _) rfl rfl, Nat.le_refl _,
        pruning_of_place (by simp)⟩
    · have hgate := DomainGate.check_denied (by simpa using hadm)
      simp only [if_neg hadm]
      exact ⟨.idle (Dispatcher.globalGate_passDomain _ _ _)
        (by rw [Dispatcher.domainGate_passDomain, hgate]) rfl rfl, Nat.le_refl _,
        pruning_of_place (by simp)⟩

theorem changes_startPrune (w : SharedDispatcher ι) (i : ι) : Changes w (w.startPrune i) := by
  simp only [startPrune]
  rcases hr : w.clock.read with ⟨f | now, c⟩
  · exact ⟨.idle rfl rfl rfl rfl, Nat.le_of_eq (congrArg _ (Clock.time_read hr).symm),
      fun _ _ n h => .inr ⟨n, h⟩⟩
  · obtain ⟨rfl, rfl, -⟩ := Clock.read_ok hr
    exact ⟨.idle rfl rfl rfl rfl, Nat.le_refl _,
      pruning_of_place (by rintro m n ⟨rfl, -⟩; exact .inl rfl)⟩

theorem changes_visit (w : SharedDispatcher ι) {i : ι} {started : Moment} {removed : Nat}
    (hi : w.caller i = .pruning started removed) (domain : String) :
    Changes w (w.visit i started removed domain) where
  gates := .visit i domain started removed hi rfl rfl rfl rfl
  time_le := Nat.le_refl _
  pruning := pruning_of_place (by rintro m n ⟨rfl, -⟩; exact .inr ⟨removed, hi⟩)

theorem changes_endPrune (w : SharedDispatcher ι) (i : ι) (removed : Nat) :
    Changes w (w.endPrune i removed) where
  gates := .idle rfl rfl rfl rfl
  time_le := Nat.le_refl _
  pruning := pruning_of_place (by simp)

/-- **Every step changes no more than that.** -/
theorem changes_step (w : SharedDispatcher ι) (a : SharedStep ι) : Changes w (w.step a) := by
  cases a with
  | turnClock c =>
    simp only [step]
    split
    · next hle => exact ⟨.idle rfl rfl rfl rfl, hle, fun _ _ n h => .inr ⟨n, h⟩⟩
    · exact .refl w
  | askGlobal i domain =>
    simp only [step]
    split
    · exact w.changes_askGlobal i domain
    · exact .refl w
  | askDomain i =>
    simp only [step]
    split
    · next domain _ => exact w.changes_askDomain i domain
    · exact .refl w
  | startPrune i =>
    simp only [step]
    split
    · exact w.changes_startPrune i
    · exact .refl w
  | visit i domain =>
    simp only [step]
    split
    · next hi => exact w.changes_visit hi domain
    · exact .refl w
  | endPrune i =>
    simp only [step]
    split
    · next removed _ => exact w.changes_endPrune i removed
    · exact .refl w

/-! ## The invariant -/

omit [DecidableEq ι]

/-- One more reading, behind all others by a spacing. -/
theorem pairwise_apart_concat {d : Span} {l : List Moment} {now : Moment}
    (hl : l.Pairwise (Moment.Apart d)) (hpos : 0 < d.toNanos)
    (hnow : ∀ t ∈ l, ¬ now.since t < d) : (l ++ [now]).Pairwise (Moment.Apart d) := by
  rw [List.pairwise_append]
  refine ⟨hl, List.pairwise_singleton _ _, fun t ht u hu => ?_⟩
  rw [List.mem_singleton.1 hu]
  exact Moment.apart_of_not_since_lt hpos (hnow t ht)

/-- The global gate remembers all the readings it let pass, and they lie a
spacing apart. -/
structure GlobalSpaced (gate : GlobalGate) (passes : List Moment) : Prop where
  spaced : passes.Pairwise (Moment.Apart gate.spacing)
  remembers : gate.Remembers (· ∈ passes)

/-- The domain gate remembers all its admissions as far as they matter from a
moment on, and those of one domain lie a spacing apart. -/
structure DomainSpaced (gate : DomainGate) (now : Moment) (admissions : String → List Moment) :
    Prop where
  spaced : ∀ x, (admissions x).Pairwise (Moment.Apart gate.spacing)
  remembers : gate.Remembers True now fun x t => t ∈ admissions x

/-- **A pass keeps the spacing of passes.** -/
theorem GlobalSpaced.pass {gate : GlobalGate} {passes : List Moment} {now : Moment}
    (h : GlobalSpaced gate passes) (hpass : (gate.check now).1 = true) :
    GlobalSpaced (gate.setWindow (some (.openedAt now))) (passes ++ [now]) where
  spaced := pairwise_apart_concat h.spaced gate.spacing_pos (h.remembers.passes_iff.1 hpass)
  remembers := (h.remembers.pass hpass).congr (by simp)

/-- A failed check keeps it. -/
theorem GlobalSpaced.poison {gate : GlobalGate} {passes : List Moment}
    (h : GlobalSpaced gate passes) : GlobalSpaced gate.poison passes where
  spaced := h.spaced
  remembers := h.remembers.poison

namespace DomainSpaced

variable {gate : DomainGate} {now later started : Moment} {admissions : String → List Moment}
  {domain : String}

/-- **An admission keeps the spacing of the admissions of each domain.** -/
theorem admission (h : DomainSpaced gate now admissions) (hadm : (gate.check domain now).1 = true) :
    DomainSpaced (gate.check domain now).2 now
      fun y => if domain = y then admissions y ++ [now] else admissions y where
  spaced y := by
    split
    · next hy =>
      have hnow := h.remembers.admits_iff.1 hadm
      exact pairwise_apart_concat (h.spaced y) gate.spacing_pos (hy ▸ hnow)
    · exact h.spaced y
  remembers := (h.remembers.admission hadm).congr fun y t => by
    by_cases hy : domain = y <;> simp [hy, eq_comm (a := y)]

/-- **A visit keeps it**, however long ago its prune began. -/
theorem visit (h : DomainSpaced gate now admissions) (hle : started.toNanos ≤ now.toNanos) :
    DomainSpaced (gate.pruneEntry domain started) now admissions where
  spaced := h.spaced
  remembers := h.remembers.pruneEntry trivial hle domain

/-- Passing time keeps it. -/
theorem at_later (h : DomainSpaced gate now admissions) (hle : now.toNanos ≤ later.toNanos) :
    DomainSpaced gate later admissions where
  spaced := h.spaced
  remembers := h.remembers.at_later fun _ => hle

end DomainSpaced

/-- **What holds after every step.** Both gates remember what they let through,
in readings that keep the spacings, and prunes started in the past. -/
structure Spaced (w : SharedDispatcher ι) : Prop where
  global : GlobalSpaced w.dispatcher.globalGate w.passes
  domain : DomainSpaced w.dispatcher.domainGate w.clock.time w.admissionsOf
  started : ∀ i m n, w.caller i = .pruning m n → m.toNanos ≤ w.clock.time.toNanos

/-- The admissions of a domain when one more admission is recorded. -/
theorem admissionsOf_concat {x : String} {now : Moment}
    (h : w'.admissions = w.admissions ++ [(x, now)]) :
    w'.admissionsOf = fun y => if x = y then w.admissionsOf y ++ [now] else w.admissionsOf y := by
  funext y
  by_cases hy : x = y <;> simp [admissionsOf, h, hy, List.filter_append]

/-- The admissions of a domain when nothing is recorded. -/
theorem admissionsOf_congr (h : w'.admissions = w.admissions) :
    w'.admissionsOf = w.admissionsOf := by
  funext y
  rw [admissionsOf, h, admissionsOf]

namespace Spaced

/-- A dispatcher that has not done anything has let nothing through. -/
theorem begin_ofSettings (settings : Settings) (product endpoint : String) (c : Clock) :
    (begin (.ofSettings settings product endpoint) c : SharedDispatcher ι).Spaced where
  global :=
    { spaced := .nil
      remembers :=
        { latest := fun _ hw => nomatch hw
          nothing := fun _ _ ht => nomatch ht } }
  domain :=
    { spaced := fun _ => .nil
      remembers :=
        { latest := fun _ _ hw => nomatch hw
          elapsed := fun _ _ _ ht => nomatch ht } }
  started _ _ _ h := nomatch h

/-- **What a step can do keeps the spacings.** -/
theorem of_changes (h : w.Spaced) (hc : Changes w w') : w'.Spaced := by
  -- a running prune has started at this very step or before it
  have hstarted : ∀ j m n, w'.caller j = .pruning m n → m.toNanos ≤ w'.clock.time.toNanos := by
    intro j m n hj
    rcases hc.pruning j m n hj with rfl | ⟨n', hn'⟩
    · exact hc.time_le
    · exact Nat.le_trans (h.started j m n' hn') hc.time_le
  cases hc.gates with
  | pass passed globalGate domainGate passes admissions =>
    refine ⟨?_, ?_, hstarted⟩
    · rw [globalGate, passes]
      exact h.global.pass passed
    · rw [domainGate, admissionsOf_congr admissions]
      exact h.domain.at_later hc.time_le
  | admission domain admitted globalGate domainGate passes admissions =>
    refine ⟨?_, ?_, hstarted⟩
    · rw [globalGate, passes]
      exact h.global
    · rw [domainGate, admissionsOf_concat admissions]
      exact (h.domain.admission admitted).at_later hc.time_le
  | visit i domain started removed standing globalGate domainGate passes admissions =>
    refine ⟨?_, ?_, hstarted⟩
    · rw [globalGate, passes]
      exact h.global
    · -- the moment the prune goes by is old, but it is not ahead of the clock
      rw [domainGate, admissionsOf_congr admissions]
      exact (h.domain.visit (h.started i started removed standing)).at_later hc.time_le
  | failed globalGate domainGate passes admissions =>
    refine ⟨?_, ?_, hstarted⟩
    · rw [globalGate, passes]
      exact h.global.poison
    · rw [domainGate, admissionsOf_congr admissions]
      exact h.domain.at_later hc.time_le
  | idle globalGate domainGate passes admissions =>
    refine ⟨?_, ?_, hstarted⟩
    · rw [globalGate, passes]
      exact h.global
    · rw [domainGate, admissionsOf_congr admissions]
      exact h.domain.at_later hc.time_le

variable [DecidableEq ι]

/-- Every step keeps them. -/
theorem step (h : w.Spaced) (a : SharedStep ι) : (w.step a).Spaced :=
  h.of_changes (w.changes_step a)

/-- **Every run keeps them.** -/
theorem after (h : w.Spaced) (steps : List (SharedStep ι)) : (w.after steps).Spaced := by
  induction steps generalizing w with
  | nil => exact h
  | cons a steps ih => exact ih (h.step a)

end Spaced

/-! ## What a prune removes -/

/-- Only a visit of a running prune removes a window, and only one that was
stale when the prune began. -/
theorem isStale_of_removed (hc : Changes w w') {x : String} {win : RateWindow}
    (hbefore : w.dispatcher.domainGate.window x = some win)
    (hafter : w'.dispatcher.domainGate.window x = none) :
    ∃ i started removed, w.caller i = .pruning started removed ∧
      win.isStale started w.dispatcher.domainGate.maxAge = true := by
  cases hc.gates with
  | pass _ _ domainGate => simp [domainGate, hbefore] at hafter
  | admission domain admitted _ domainGate =>
    rw [domainGate, DomainGate.window_check_admitted admitted] at hafter
    split at hafter
    · nomatch hafter
    · simp [hbefore] at hafter
  | visit i domain started removed standing _ domainGate =>
    -- the filter of the visit let the window go, so it was stale
    refine ⟨i, started, removed, standing, ?_⟩
    rw [domainGate, DomainGate.window_pruneEntry, hbefore] at hafter
    split at hafter
    · simpa [Option.filter] using hafter
    · nomatch hafter
  | failed _ domainGate | idle _ domainGate => simp [domainGate, hbefore] at hafter

/-- **What a prune removes denies nothing any more**, neither at the moment of
the removal nor later. -/
theorem Spaced.admits_of_removed (h : w.Spaced) (hc : Changes w w') {x : String}
    {now : Moment} (hbefore : w.dispatcher.domainGate.window x ≠ none)
    (hafter : w'.dispatcher.domainGate.window x = none)
    (hle : w.clock.time.toNanos ≤ now.toNanos) :
    (w.dispatcher.domainGate.check x now).1 = true := by
  obtain ⟨win, hwin⟩ := Option.ne_none_iff_exists'.1 hbefore
  obtain ⟨i, started, removed, standing, hstale⟩ := isStale_of_removed hc hwin hafter
  refine DomainGate.check_admitted_iff.2 fun w₁ hw₁ => ?_
  obtain rfl : win = w₁ := Option.some.inj (hwin.symm.trans hw₁)
  exact DomainGate.isOpen_of_isStale hstale
    (Nat.le_trans (h.started i started removed standing) hle)

/-! ## Rates -/

/-- No step changes a rate. -/
theorem rates_of_changes (hc : Changes w w') :
    w'.dispatcher.globalGate.spacing = w.dispatcher.globalGate.spacing ∧
      w'.dispatcher.domainGate.spacing = w.dispatcher.domainGate.spacing := by
  cases hc.gates with
  | pass _ globalGate domainGate => exact ⟨by rw [globalGate]; rfl, by rw [domainGate]⟩
  | admission _ _ globalGate domainGate => exact ⟨by rw [globalGate], by rw [domainGate]; rfl⟩
  | visit _ _ _ _ _ globalGate domainGate => exact ⟨by rw [globalGate], by rw [domainGate]; rfl⟩
  | failed globalGate domainGate => exact ⟨by rw [globalGate]; rfl, by rw [domainGate]⟩
  | idle globalGate domainGate => exact ⟨by rw [globalGate], by rw [domainGate]⟩

variable [DecidableEq ι]

/-- No run changes a rate. -/
theorem rates_after (w : SharedDispatcher ι) (steps : List (SharedStep ι)) :
    (w.after steps).dispatcher.globalGate.spacing = w.dispatcher.globalGate.spacing ∧
      (w.after steps).dispatcher.domainGate.spacing = w.dispatcher.domainGate.spacing := by
  induction steps generalizing w with
  | nil => exact ⟨rfl, rfl⟩
  | cons a steps ih =>
    have hstep := rates_of_changes (w.changes_step a)
    exact ⟨(ih (w.step a)).1.trans hstep.1, (ih (w.step a)).2.trans hstep.2⟩

end SharedDispatcher

/-- **Rates hold under any interleaving.** Whatever callers there are and
however their steps come between each other, with clock moves in between: the
global gate lets checks pass at readings that lie the global spacing apart,
every domain is admitted at readings that lie the domain spacing apart, and a
window that a step removes would not have denied its domain at that moment or
any later one. -/
theorem shared_checks_keep_the_rates {ι : Type} [DecidableEq ι] (settings : Settings)
    (product endpoint : String) (c : Clock) (steps : List (SharedStep ι)) :
    let w := (SharedDispatcher.begin (.ofSettings settings product endpoint) c).after steps
    w.passes.Pairwise (Moment.Apart (spacing settings.globalRate globalPeriod)) ∧
      (∀ domain, (w.admissionsOf domain).Pairwise
        (Moment.Apart (spacing settings.domainRate domainPeriod))) ∧
      ∀ a domain now, w.dispatcher.domainGate.window domain ≠ none →
        (w.step a).dispatcher.domainGate.window domain = none →
        w.clock.time.toNanos ≤ now.toNanos →
        (w.dispatcher.domainGate.check domain now).1 = true := by
  intro w
  have hw : w.Spaced := (SharedDispatcher.Spaced.begin_ofSettings settings product endpoint c).after
    steps
  obtain ⟨hglobal, hdomain⟩ := SharedDispatcher.rates_after
    (SharedDispatcher.begin (.ofSettings settings product endpoint) c) steps
  refine ⟨?_, fun domain => ?_, fun a domain now hbefore hafter hle => ?_⟩
  · have hspaced := hw.global.spaced
    rwa [hglobal] at hspaced
  · have hspaced := hw.domain.spaced domain
    rwa [hdomain] at hspaced
  · exact hw.admits_of_removed (w.changes_step a) hbefore hafter hle

/-- A run in which a prune visits late: a check of another domain has begun
before it and ends after it has started, and it still removes what was stale
when it started. -/
theorem shared_checks_keep_the_rates_past_a_late_visit :
    let at601 : Moment := ⟨601, 0, by decide, by decide⟩
    let at661 : Moment := ⟨661, 0, by decide, by decide⟩
    let steps : List (SharedStep Bool) := [.askGlobal false "a", .askDomain false,
      .turnClock ⟨at601, false, false⟩, .askGlobal false "b", .startPrune true,
      .turnClock ⟨at661, false, false⟩, .askDomain false, .visit true "b"]
    let w := (SharedDispatcher.begin (.ofSettings .default "" "") .fresh).after steps
    w.passes = [.start, at601] ∧ w.admissionsOf "b" = [at661]
      ∧ w.dispatcher.domainGate.window "a" ≠ none
      ∧ (w.step (.visit true "a")).dispatcher.domainGate.window "a" = none
      ∧ (w.dispatcher.domainGate.check "a" at661).1 = true := by
  intro at601 at661 steps
  have hkeep := (shared_checks_keep_the_rates .default "" "" .fresh steps).2.2
    (.visit true "a") "a" at661
  refine ⟨by decide, by decide, by decide, by decide, ?_⟩
  exact hkeep (by decide) (by decide) (by decide)

end Herald

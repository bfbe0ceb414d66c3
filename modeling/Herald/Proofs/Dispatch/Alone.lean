import Herald.Proofs.Dispatch.Reckoning
import Herald.Proofs.Dispatch.Tracked
/-!
# A global gate that decides alone

The two gates do not know of each other, and still one can make the other idle.
Every window of a domain was made behind the global gate, so none is later than
the global window (`PaidFor.before`), whatever was denied, pruned or admitted
again since, and on a clock that turns back as well. Where the global gate is
open, all of them are then a global spacing old; and where the spacing of a
domain is no longer than that, its gate is open too (`PaidFor.admits_of_passed`).
Under such rates no check is ever blocked by its domain.
-/

namespace Herald

variable {g : GlobalGate} {dg : DomainGate} {x : String} {now : Moment}

/-- **A domain with the shorter spacing is admitted wherever the global gate is
open.** -/
theorem PaidFor.admits_of_passed (h : PaidFor g dg) (hle : dg.spacing ≤ g.spacing)
    (passed : (g.check now).1 = true) : (dg.check x now).1 = true := by
  rw [DomainGate.check_admitted_iff]
  intro w hw
  have hapart := h.apart_of_passed passed hw
  rw [Span.le_iff] at hle
  rw [RateWindow.isOpen_iff]
  unfold Moment.Apart at hapart
  omega

namespace Service

variable {s : Service}

/-- Windows are paid for after every run of a new service. -/
theorem paidFor_after (settings : Settings) (product endpoint : String) (k : Clock)
    (cs : List Command) :
    let s := (begin (.ofSettings settings product endpoint) k).after cs
    PaidFor s.dispatcher.globalGate s.dispatcher.domainGate :=
  invariant_after (P := fun s => PaidFor s.dispatcher.globalGate s.dispatcher.domainGate)
    (.ofRate settings.globalRate settings.domainRate) (fun _ c h => paidFor_step c h) cs

/-- **The check of a step is not blocked by its domain.** -/
theorem answer_ne_of_step (h : PaidFor s.dispatcher.globalGate s.dispatcher.domainGate)
    (hle : s.dispatcher.domainGate.spacing ≤ s.dispatcher.globalGate.spacing) {c : Command}
    {x : Check} (hx : Check.of? s.clock.time c (s.step c).1 = some x) :
    x.answer ≠ .blocked .domain := by
  have hstep := s.gateStep c
  rw [hx] at hstep
  cases hstep with
  | check went gates clock =>
    cases went with
    | blockedByGlobal closed => exact fun heq => nomatch heq
    | blockedByDomain passed closed =>
      -- the gate of the domain would have to be closed behind an open global gate
      rw [h.admits_of_passed hle passed] at closed
      cases closed
    | admitted passed admitted => exact fun heq => nomatch heq

/-- **No check of a run is blocked by its domain.** -/
theorem answer_ne_of_run (h : PaidFor s.dispatcher.globalGate s.dispatcher.domainGate)
    (hle : s.dispatcher.domainGate.spacing ≤ s.dispatcher.globalGate.spacing)
    (cs : List Command) : ∀ x ∈ s.checks cs, x.answer ≠ .blocked .domain := by
  induction cs generalizing s with
  | nil => exact fun x hx => absurd hx List.not_mem_nil
  | cons c cs ih =>
    obtain ⟨hglobal, hdomain⟩ := s.spacings_step c
    intro x hx
    rw [checks, List.mem_append, Option.mem_toList] at hx
    rcases hx with hx | hx
    · exact answer_ne_of_step h hle hx
    · exact ih (paidFor_step c h) (by rwa [hglobal, hdomain]) x hx

end Service

/-- **A slow global gate decides alone.** After every run of a new service, of any
commands and under any settings, a domain has a window only if the global gate has
one, and not a later one. So where the spacing of a domain is no longer than the
global one, no check of the run was blocked by its domain, and the counter of such
checks stands at zero. -/
theorem slow_global_gate_decides_alone (settings : Settings) (product endpoint : String)
    (k : Clock) (cs : List Command) :
    let s₀ := Service.begin (.ofSettings settings product endpoint) k
    let s := s₀.after cs
    (∀ x w, s.dispatcher.domainGate.window x = some w →
      ∃ v, s.dispatcher.globalGate.window = some v
        ∧ w.lastAdmitted.toNanos ≤ v.lastAdmitted.toNanos) ∧
      (spacing settings.domainRate domainPeriod ≤ spacing settings.globalRate globalPeriod →
        (∀ x ∈ s₀.checks cs, x.answer ≠ .blocked .domain) ∧
          s.dispatcher.counters.blockedByDomain = 0) := by
  intro s₀ s
  refine ⟨(Service.paidFor_after settings product endpoint k cs).before, fun hle => ?_⟩
  have hnone : ∀ x ∈ s₀.checks cs, x.answer ≠ .blocked .domain :=
    Service.answer_ne_of_run (s := s₀) (.ofRate settings.globalRate settings.domainRate) hle cs
  refine ⟨hnone, ?_⟩
  have hcount : s.dispatcher.counters.blockedByDomain = _ :=
    Service.answered_after settings product endpoint k cs (.blocked .domain)
  rw [hcount, List.countP_eq_zero.2 fun x hx => by simpa using hnone x hx]
  rfl

/-- At five admissions of a domain in five minutes and one of all in a minute, both
spacings are a minute. A domain is admitted; a failure of the clock, a clock that
turns back and a prune come in between; and when the global gate is open again, so
is the domain's. -/
theorem slow_global_gate_decides_alone_on_a_wild_clock :
    let settings := { Settings.default with domainRate := 5 }
    let s₀ := Service.begin (.ofSettings settings "" "") .fresh
    let cs : List Command := [.setOffset (.ofSeconds 100 (by decide)), .check "a", .failNext,
      .check "a", .setOffset (.ofSeconds 40 (by decide)), .check "a", .prune,
      .setOffset (.ofSeconds 160 (by decide)), .check "a", .check "b"]
    spacing settings.domainRate domainPeriod ≤ spacing settings.globalRate globalPeriod ∧
      (s₀.checks cs).map Check.answer
        = [.admitted, .blocked .global, .admitted, .blocked .global] ∧
      (s₀.after cs).dispatcher.counters.blockedByDomain = 0 := by
  intro settings s₀ cs
  have hle : spacing settings.domainRate domainPeriod
      ≤ spacing settings.globalRate globalPeriod := by decide +kernel
  obtain ⟨-, halone⟩ := slow_global_gate_decides_alone settings "" "" .fresh cs
  refine ⟨hle, by decide +kernel, ?_⟩
  have hnone := (halone hle).2
  simpa only [s₀] using hnone

end Herald

import Herald.Proofs.Rate.Spread
import Herald.Rate.Calls
/-!
# How many a period holds

A gate is given a rate for a period and keeps a spacing instead: the period over
the rate, rounded down to the nanosecond. What a gate that keeps a spacing lets
through is said once for both gates, in `KeepsSpacing`: a call passes exactly
when none before it is less than the spacing ago. So what has passed lies a
spacing apart, a stretch of the period's length holds as many as there are
spacings in it, the last one begun (`countWithin_passed_le`), and some run
reaches that (`passed_every`). Those are the rate and no more exactly when the
rate divides the period: what is lost in rounding makes room for one more.
-/

namespace Herald

/-- **Rounding makes room for one more.** The spacings of a rate that are needed
to cover the period are as many as the rate says exactly when it divides the
period. -/
theorem ceilDiv_spacing_le_iff (rate : UInt32) {period : Span}
    (hlong : 0x1_0000_0000 ≤ period.toNanos) :
    period.toNanos ⌈/⌉ (spacing rate period).toNanos ≤ max rate.toNat 1
      ↔ max rate.toNat 1 ∣ period.toNanos := by
  have hpos := toNanos_spacing_pos rate hlong
  rw [ceilDiv_le_iff_le_mul hpos, toNanos_spacing, Nat.mul_comm]
  have hle := Nat.mul_div_le period.toNanos (max rate.toNat 1)
  constructor
  · intro hge
    exact Dvd.intro _ (Nat.le_antisymm hle hge)
  · intro hdvd
    rw [Nat.mul_div_cancel' hdvd]

namespace Gate

variable {γ ι α : Type} [Gate γ ι α]

/-- Calls at moments that do not turn back. -/
def InOrder (calls : List (Moment × ι)) : Prop :=
  calls.Pairwise fun c d => c.1.toNanos ≤ d.1.toNanos

/-- Whether calls are in order can be looked through. -/
instance (calls : List (Moment × ι)) : Decidable (InOrder calls) :=
  inferInstanceAs (Decidable (List.Pairwise _ _))

/-- **The moments at which calls of a kind have passed.** -/
def passed (asks : ι → Bool) (passes : α → Bool) (g : γ) : List (Moment × ι) → List Moment
  | [] => []
  | (now, i) :: calls =>
    (if asks i ∧ passes (call g now i).1 then [now] else [])
      ++ passed asks passes (call g now i).2 calls

/-- Calls of one kind, a span apart, are in order. -/
theorem inOrder_every {d : Span} {n : Nat} (hfits : n * d.toNanos < 0x8000_0000_0000_0000)
    (i : ι) : InOrder ((Moment.every d n).map fun t => (t, i)) := by
  unfold InOrder
  rw [List.pairwise_map]
  exact (Moment.pairwise_every hfits).imp fun h => Nat.le_trans (Nat.le_add_right _ _) h

/-- **A gate keeps a spacing** between the calls of a kind that pass, as far as
some property of it says which of them have passed by a moment. Such a call
passes when none of them is less than the spacing ago, and is then one more;
other calls change nothing about it, and nor does time. -/
structure KeepsSpacing (d : Span) (asks : ι → Bool) (passes : α → Bool)
    (Knows : γ → Moment → (Moment → Prop) → Prop) : Prop where
  passes_iff : ∀ {g now past i}, Knows g now past → asks i = true →
    (passes (call g now i).1 = true ↔ ∀ t, past t → ¬ now.since t < d)
  counted : ∀ {g now past i}, Knows g now past → asks i = true →
    passes (call g now i).1 = true → Knows (call g now i).2 now fun t => past t ∨ t = now
  others : ∀ {g now past i}, Knows g now past →
    ¬ (asks i = true ∧ passes (call g now i).1 = true) → Knows (call g now i).2 now past
  at_later : ∀ {g past} {now later : Moment}, Knows g now past → now.toNanos ≤ later.toNanos →
    Knows g later past

namespace KeepsSpacing

variable {d period : Span} {asks : ι → Bool} {passes : α → Bool}
  {Knows : γ → Moment → (Moment → Prop) → Prop} {g : γ} {now : Moment}
  {past : Moment → Prop} {calls : List (Moment × ι)} {i : ι} {rate : UInt32}

/-- **What passes lies a spacing apart**, and a spacing after all that has
passed before. -/
theorem pairwise_passed (h : KeepsSpacing d asks passes Knows) (hpos : 0 < d.toNanos)
    (hknows : Knows g now past) (hstart : ∀ c ∈ calls, now.toNanos ≤ c.1.toNanos)
    (hclock : InOrder calls) :
    (∀ t, past t → ∀ u ∈ passed asks passes g calls, Moment.Apart d t u) ∧
      (passed asks passes g calls).Pairwise (Moment.Apart d) := by
  induction calls generalizing g now past with
  | nil => exact ⟨fun _ _ _ hu => absurd hu List.not_mem_nil, .nil⟩
  | cons c calls ih =>
    obtain ⟨time, i⟩ := c
    obtain ⟨hnext, hrest⟩ := List.pairwise_cons.1 hclock
    have hnow : Knows g time past := h.at_later hknows (List.forall_mem_cons.1 hstart).1
    unfold passed
    by_cases hpass : asks i = true ∧ passes (call g time i).1 = true
    · -- the call is one of those that have passed, for all that comes behind it
      obtain ⟨hbefore, hapart⟩ := ih (h.counted hnow hpass.1 hpass.2) hnext hrest
      have hopen := (h.passes_iff hnow hpass.1).1 hpass.2
      rw [if_pos hpass, List.singleton_append]
      refine ⟨fun t ht u hu => ?_, List.pairwise_cons.2 ⟨fun u hu => ?_, hapart⟩⟩
      · rcases List.mem_cons.1 hu with rfl | hu
        · exact Moment.apart_of_not_since_lt hpos (hopen t ht)
        · exact hbefore t (.inl ht) u hu
      · exact hbefore time (.inr rfl) u hu
    · rw [if_neg hpass, List.nil_append]
      exact ih (h.others hnow hpass) hnext hrest

/-- **Calls a spacing apart all pass.** -/
theorem passed_of_apart (h : KeepsSpacing d asks passes Knows) (hknows : Knows g now past)
    (hi : asks i = true) {l : List Moment} (hstart : ∀ t ∈ l, now.toNanos ≤ t.toNanos)
    (hpast : ∀ t, past t → ∀ u ∈ l, Moment.Apart d t u) (hapart : l.Pairwise (Moment.Apart d)) :
    passed asks passes g (l.map fun t => (t, i)) = l := by
  induction l generalizing g now past with
  | nil => rfl
  | cons time l ih =>
    obtain ⟨hnext, hrest⟩ := List.pairwise_cons.1 hapart
    have hnow : Knows g time past := h.at_later hknows (List.forall_mem_cons.1 hstart).1
    have hpass : passes (call g time i).1 = true := by
      refine (h.passes_iff hnow hi).2 fun t ht => ?_
      have hlong := hpast t ht time List.mem_cons_self
      unfold Moment.Apart at hlong
      rw [Moment.since_lt_iff]
      omega
    have hlater : ∀ u ∈ l, time.toNanos ≤ u.toNanos := fun u hu =>
      Nat.le_trans (Nat.le_add_right _ _) (hnext u hu)
    rw [List.map_cons]
    unfold passed
    rw [if_pos ⟨hi, hpass⟩, List.singleton_append]
    refine congrArg _ (ih (h.counted hnow hi hpass) hlater (fun t ht u hu => ?_) hrest)
    rcases ht with ht | rfl
    · exact hpast t ht u (List.mem_cons_of_mem _ hu)
    · exact hnext u hu

/-- **A stretch of time holds as many as it has room for**, by the spacing. -/
theorem countWithin_passed_le (h : KeepsSpacing d asks passes Knows) (hpos : 0 < d.toNanos)
    (hnew : Knows g .start fun _ => False) (hclock : InOrder calls) (start : Moment)
    (length : Span) :
    Moment.countWithin start length (passed asks passes g calls)
      ≤ length.toNanos ⌈/⌉ d.toNanos :=
  Moment.countWithin_le hpos (h.pairwise_passed hpos hnew (fun _ _ => Nat.zero_le _) hclock).2
    start length

/-- **As many as a stretch of time has room for can pass.** -/
theorem passed_every (h : KeepsSpacing d asks passes Knows)
    (hnew : Knows g .start fun _ => False) (hi : asks i = true) {n : Nat}
    (hfits : n * d.toNanos < 0x8000_0000_0000_0000) :
    passed asks passes g ((Moment.every d n).map fun t => (t, i)) = Moment.every d n :=
  h.passed_of_apart hnew hi (fun _ _ => Nat.zero_le _) (fun _ ht => ht.elim)
    (Moment.pairwise_every hfits)

/-- **The rate bounds a period exactly when it divides the period.** -/
theorem rate_iff (h : KeepsSpacing (spacing rate period) asks passes Knows)
    (hnew : Knows g .start fun _ => False) (hi : asks i = true)
    (hlong : 0x1_0000_0000 ≤ period.toNanos) (hshort : period.toNanos < 0x1000_0000_0000_0000) :
    (∀ calls, InOrder calls → ∀ start,
        Moment.countWithin start period (passed asks passes g calls) ≤ max rate.toNat 1)
      ↔ max rate.toNat 1 ∣ period.toNanos := by
  have hpos := toNanos_spacing_pos rate hlong
  rw [← ceilDiv_spacing_le_iff rate hlong]
  constructor
  · intro hall
    -- call at the beginning of the period, and again after each spacing
    have hspacing : (spacing rate period).toNanos ≤ period.toNanos := by
      rw [toNanos_spacing]
      exact Nat.div_le_self _ _
    have hfits : period.toNanos ⌈/⌉ (spacing rate period).toNanos * (spacing rate period).toNanos
        < 0x8000_0000_0000_0000 := by
      have hle := Nat.div_mul_le_self (period.toNanos + (spacing rate period).toNanos - 1)
        (spacing rate period).toNanos
      rw [Nat.ceilDiv_eq_add_pred_div]
      omega
    have hcount := hall _ (inOrder_every hfits i) .start
    rwa [h.passed_every hnew hi hfits, Moment.countWithin_every hpos (by omega)] at hcount
  · exact fun hle calls hclock start =>
      Nat.le_trans (h.countWithin_passed_le hpos hnew hclock start period) hle

end KeepsSpacing

end Gate

/-! ## The two gates -/

/-- Whether a call is a check of a domain. -/
def DomainCall.isCheckOf (x : String) (i : DomainCall) : Bool := decide (i = .check x)

/-- Whether an answer is an admission. -/
def DomainAnswer.isAdmission (a : DomainAnswer) : Bool := decide (a = .checked true)

namespace DomainGate

variable {rate : UInt32} {x : String}

/-- **When a gate has admitted a domain**, in a run of calls. -/
def admissions (x : String) (g : DomainGate) (calls : List (Moment × DomainCall)) : List Moment :=
  Gate.passed (DomainCall.isCheckOf x) DomainAnswer.isAdmission g calls

/-- The gate has a rate and remembers the admissions of a domain, along with
those of the others. -/
structure Knows (rate : UInt32) (x : String) (g : DomainGate) (now : Moment)
    (past : Moment → Prop) : Prop where
  rate : g.rate = rate
  remembers : ∃ admitted, g.Remembers True now admitted ∧ admitted x = past

/-- A new gate has admitted nothing. -/
theorem knows_ofRate (rate : UInt32) (x : String) (now : Moment) :
    Knows rate x (.ofRate rate) now fun _ => False where
  rate := rfl
  remembers := ⟨fun _ _ => False,
    { latest := fun _ _ hw => nomatch hw
      elapsed := fun _ _ _ ht => ht.elim }, rfl⟩

/-- **The domain gate keeps the spacing of its rate**, for every domain. -/
theorem keepsSpacing (rate : UInt32) (x : String) :
    Gate.KeepsSpacing (Herald.spacing rate domainPeriod) (DomainCall.isCheckOf x)
      DomainAnswer.isAdmission (Knows rate x) where
  passes_iff {g now past i} hknows hi := by
    obtain ⟨rfl, admitted, hrem, rfl⟩ := hknows
    obtain rfl : i = .check x := of_decide_eq_true hi
    have hpass : DomainAnswer.isAdmission (Gate.call g now (DomainCall.check x)).1 = true
        ↔ (g.check x now).1 = true := by
      simp [Gate.call, DomainAnswer.isAdmission]
    exact hpass.trans hrem.admits_iff
  counted {g now past i} hknows hi hpass := by
    obtain ⟨hrate, admitted, hrem, rfl⟩ := hknows
    obtain rfl : i = .check x := of_decide_eq_true hi
    have hadm : (g.check x now).1 = true := by
      simpa [Gate.call, DomainAnswer.isAdmission] using hpass
    refine ⟨hrate, _, hrem.admission hadm, ?_⟩
    simp
  others {g now past i} hknows hother := by
    obtain ⟨hrate, admitted, hrem, rfl⟩ := hknows
    cases i with
    | prune => exact ⟨hrate, admitted, hrem.prune trivial, rfl⟩
    | check y =>
      by_cases hadm : (g.check y now).1 = true
      · -- another domain was admitted
        have hy : ¬ x = y := by
          rintro rfl
          exact hother (by simp [Gate.call, DomainCall.isCheckOf, DomainAnswer.isAdmission, hadm])
        refine ⟨hrate, _, hrem.admission hadm, ?_⟩
        simp [hy]
      · have hden : (g.check y now).1 = false := by simpa using hadm
        have hsame : (Gate.call g now (DomainCall.check y)).2 = g := check_denied hden
        rw [hsame]
        exact ⟨hrate, admitted, hrem, rfl⟩
  at_later {g past now later} hknows hle := by
    obtain ⟨hrate, admitted, hrem, rfl⟩ := hknows
    exact ⟨hrate, admitted, hrem.at_later fun _ => hle, rfl⟩

end DomainGate

namespace GlobalGate

/-- **When a gate has let a check through**, in a run of checks. -/
def passes (g : GlobalGate) (calls : List (Moment × Unit)) : List Moment :=
  Gate.passed (fun _ => true) id g calls

/-- The gate has a rate and remembers what it has let through. -/
structure Knows (rate : UInt32) (g : GlobalGate) (now : Moment) (past : Moment → Prop) : Prop where
  rate : g.rate = rate
  remembers : g.Remembers past

/-- A new gate has let nothing through. -/
theorem knows_ofRate (rate : UInt32) (now : Moment) :
    Knows rate (.ofRate rate) now fun _ => False where
  rate := rfl
  remembers :=
    { latest := fun _ hw => nomatch hw
      nothing := fun _ _ => id }

/-- **The global gate keeps its spacing.** -/
theorem keepsSpacing (rate : UInt32) :
    Gate.KeepsSpacing (Herald.spacing rate globalPeriod) (fun _ => true) id (Knows rate) where
  passes_iff {g now past i} hknows _ := by
    obtain ⟨rfl, hrem⟩ := hknows
    exact hrem.passes_iff
  counted {g now past i} hknows _ hpass := by
    obtain ⟨hrate, hrem⟩ := hknows
    have hcall : (Gate.call g now i).2 = g.setWindow (some (.openedAt now)) :=
      check_admitted hpass
    rw [hcall]
    exact ⟨hrate, hrem.pass hpass⟩
  others {g now past i} hknows hother := by
    have hden : (g.check now).1 = false := by simpa [Gate.call] using hother
    have hsame : (Gate.call g now i).2 = g := check_denied hden
    rw [hsame]
    exact hknows
  at_later hknows _ := ⟨hknows.rate, hknows.remembers⟩

end GlobalGate

/-- **Rates bound their periods when they divide them.** In runs of a new gate at
moments that do not turn back, whatever the checks and prunes: a period that
begins at whatever moment holds at most as many admissions of a domain as it has
room for by the spacing, one more than it holds whole spacings if something is
left over. That this is the rate, with zero read as one, holds of every run and
every period exactly for the rates that divide the period to the nanosecond. The
same is true of the global gate and its own period. -/
theorem rates_bound_periods_iff (rate : UInt32) :
    (∀ x : String,
      (∀ calls, Gate.InOrder calls → ∀ start,
        Moment.countWithin start domainPeriod
            (DomainGate.admissions x (.ofRate rate) calls)
          ≤ domainPeriod.toNanos ⌈/⌉ (spacing rate domainPeriod).toNanos) ∧
      ((∀ calls, Gate.InOrder calls → ∀ start,
        Moment.countWithin start domainPeriod
            (DomainGate.admissions x (.ofRate rate) calls) ≤ max rate.toNat 1)
          ↔ max rate.toNat 1 ∣ domainPeriod.toNanos)) ∧
      (∀ calls, Gate.InOrder calls → ∀ start,
        Moment.countWithin start globalPeriod (GlobalGate.passes (.ofRate rate) calls)
          ≤ globalPeriod.toNanos ⌈/⌉ (spacing rate globalPeriod).toNanos) ∧
      ((∀ calls, Gate.InOrder calls → ∀ start,
        Moment.countWithin start globalPeriod (GlobalGate.passes (.ofRate rate) calls)
          ≤ max rate.toNat 1)
          ↔ max rate.toNat 1 ∣ globalPeriod.toNanos) := by
  have hdomain : 0x1_0000_0000 ≤ domainPeriod.toNanos := by decide
  have hglobal : 0x1_0000_0000 ≤ globalPeriod.toNanos := by decide
  refine ⟨fun x => ⟨?_, ?_⟩, ?_, ?_⟩
  · intro calls hclock start
    exact (DomainGate.keepsSpacing rate x).countWithin_passed_le
      (toNanos_spacing_pos rate hdomain) (DomainGate.knows_ofRate rate x _) hclock start _
  · exact (DomainGate.keepsSpacing rate x).rate_iff (DomainGate.knows_ofRate rate x _)
      (i := .check x) (by simp [DomainCall.isCheckOf]) hdomain (by decide)
  · intro calls hclock start
    exact (GlobalGate.keepsSpacing rate).countWithin_passed_le
      (toNanos_spacing_pos rate hglobal) (GlobalGate.knows_ofRate rate _) hclock start _
  · exact (GlobalGate.keepsSpacing rate).rate_iff (GlobalGate.knows_ofRate rate _)
      (i := ()) rfl hglobal (by decide)

/-- At a rate of eight, nine checks a spacing apart are all admitted, and a prune
comes behind them. The ninth is made when the first five minutes are just over. -/
theorem rates_bound_periods_iff_at_eight :
    let calls := ((Moment.every (spacing 8 domainPeriod) 9).map fun t => (t, .check "a"))
      ++ [(⟨901, 0, by decide, by decide⟩, .prune)]
    Gate.InOrder calls ∧
      (DomainGate.admissions "a" (.ofRate 8) calls).length = 9 ∧
      Moment.countWithin .start domainPeriod (DomainGate.admissions "a" (.ofRate 8) calls) ≤ 8 := by
  intro calls
  have hclock : Gate.InOrder calls := by decide +kernel
  have hdvd : 8 ∣ domainPeriod.toNanos := by decide
  exact ⟨hclock, by decide +kernel,
    (((rates_bound_periods_iff 8).1 "a").2.2 hdvd) calls hclock .start⟩

/-- **At a rate of seven, eight admissions fit in five minutes**: seven spacings are
a nanosecond short of them. So it is not true of every rate that it bounds its
period. -/
theorem rate_seven_admits_eight :
    ¬ ∀ rate : UInt32,
      (∀ calls, Gate.InOrder calls → ∀ (x : String) (start : Moment),
        Moment.countWithin start domainPeriod (DomainGate.admissions x (.ofRate rate) calls)
          ≤ max rate.toNat 1) ∧
      (∀ calls, Gate.InOrder calls → ∀ start : Moment,
        Moment.countWithin start globalPeriod (GlobalGate.passes (.ofRate rate) calls)
          ≤ max rate.toNat 1) := by
  intro hall
  have hseven := (hall 7).1 ((Moment.every (spacing 7 domainPeriod) 8).map fun t => (t, .check "a"))
    (by decide +kernel) "a" .start
  revert hseven
  decide +kernel

end Herald

import Herald.Proofs.Rate.Period
import Mathlib.Order.Bounds.Basic
/-!
# A gate admits all it can

The other side of a spacing: a gate not only keeps what passes a spacing apart, it
lets through as many calls as that allows. Take any selection of the moments at
which it was asked, pairwise a spacing apart. The gate stays ahead of it
(`length_le_passed`): where the gate is open it takes the moment at hand, and if
the selection waits for a later one, what the selection takes after that is still a
spacing behind the gate's. A gate that moved its window on a denial would keep the
spacing and fall behind. More calls leave more to select from, so they never lower
what passes.
-/

namespace Herald

namespace Moment

variable {d : Span} {times l : List Moment}

/-- How many moments can be selected out of some, any two of them a span apart. -/
def selectionSizes (d : Span) (times : List Moment) : Set Nat :=
  {n | ∃ l : List Moment, l.Sublist times ∧ l.Pairwise (Separate d) ∧ l.length = n}

/-- Of moments that do not turn back, the later one is the one behind. -/
theorem pairwise_apart_of_separate (hpos : 0 < d.toNanos)
    (horder : l.Pairwise fun s t => s.toNanos ≤ t.toNanos) (hsep : l.Pairwise (Separate d)) :
    l.Pairwise (Apart d) := by
  refine (horder.and hsep).imp fun {s t} ⟨hle, hst⟩ => ?_
  rcases hst with h | h
  · exact h
  · unfold Apart at h
    omega

end Moment

namespace Gate

variable {γ ι α : Type} [Gate γ ι α] {asks : ι → Bool} {passes : α → Bool}
  {calls calls' : List (Moment × ι)}

/-- **The moments of the calls of a kind.** -/
def asked (asks : ι → Bool) (calls : List (Moment × ι)) : List Moment :=
  (calls.filter fun c => asks c.2).map Prod.fst

/-- A call of the kind is asked at its moment. -/
theorem asked_cons_of_asks {now : Moment} {i : ι} (hi : asks i = true) :
    asked asks ((now, i) :: calls) = now :: asked asks calls := by
  simp [asked, hi]

/-- Another call is not. -/
theorem asked_cons_of_not {now : Moment} {i : ι} (hi : ¬ asks i = true) :
    asked asks ((now, i) :: calls) = asked asks calls := by
  simp [asked, hi]

/-- More calls are asked at more moments. -/
theorem asked_sublist (h : calls.Sublist calls') :
    (asked asks calls).Sublist (asked asks calls') := (h.filter _).map _

/-- What is not before any call is not before any that is asked. -/
theorem le_of_mem_asked {time u : Moment} (hnext : ∀ c ∈ calls, time.toNanos ≤ c.1.toNanos)
    (hu : u ∈ asked asks calls) : time.toNanos ≤ u.toNanos := by
  obtain ⟨c, hc, rfl⟩ := List.mem_map.1 hu
  exact hnext c (List.mem_of_mem_filter hc)

/-- In order, they are asked in order. -/
theorem pairwise_asked (hclock : InOrder calls) :
    (asked asks calls).Pairwise fun s t => s.toNanos ≤ t.toNanos := by
  unfold asked
  rw [List.pairwise_map]
  exact hclock.filter _

/-- What has passed was asked. -/
theorem passed_sublist_asked (g : γ) (calls : List (Moment × ι)) :
    (passed asks passes g calls).Sublist (asked asks calls) := by
  induction calls generalizing g with
  | nil => exact List.Sublist.slnil
  | cons c calls ih =>
    obtain ⟨now, i⟩ := c
    unfold passed
    by_cases hi : asks i = true
    · rw [asked_cons_of_asks hi]
      split
      · exact (ih _).cons_cons now
      · exact (ih _).cons now
    · rw [asked_cons_of_not hi, if_neg fun h => hi h.1]
      exact ih _

namespace KeepsSpacing

variable {d : Span} {Knows : γ → Moment → (Moment → Prop) → Prop} {g : γ} {now : Moment}
  {past : Moment → Prop}

/-- **The gate stays ahead of every selection** that keeps the spacing, also from
what has passed before. -/
theorem length_le_passed (h : KeepsSpacing d asks passes Knows) (hknows : Knows g now past)
    (hstart : ∀ c ∈ calls, now.toNanos ≤ c.1.toNanos) (hclock : InOrder calls)
    {l : List Moment} (hsub : l.Sublist (asked asks calls)) (hapart : l.Pairwise (Moment.Apart d))
    (hpast : ∀ t, past t → ∀ u ∈ l, Moment.Apart d t u) :
    l.length ≤ (passed asks passes g calls).length := by
  induction calls generalizing g now past l with
  | nil =>
    obtain rfl : l = [] := List.sublist_nil.1 hsub
    exact Nat.le_refl 0
  | cons c calls ih =>
    obtain ⟨time, i⟩ := c
    obtain ⟨hnext, hrest⟩ := List.pairwise_cons.1 hclock
    have hnow : Knows g time past := h.at_later hknows (List.forall_mem_cons.1 hstart).1
    unfold passed
    by_cases hi : asks i = true
    · rw [asked_cons_of_asks hi] at hsub
      by_cases hpass : passes (call g time i).1 = true
      · -- the gate takes the moment; the selection loses its first one at most
        rw [if_pos ⟨hi, hpass⟩, List.singleton_append, List.length_cons]
        have hcounted := h.counted hnow hi hpass
        rcases l with _ | ⟨u, l⟩
        · exact Nat.zero_le _
        obtain ⟨hu, hl⟩ := List.pairwise_cons.1 hapart
        have hlate : time.toNanos ≤ u.toNanos := by
          rcases List.mem_cons.1 (hsub.subset List.mem_cons_self) with rfl | hmem
          · exact Nat.le_refl _
          · exact le_of_mem_asked hnext hmem
        have htail : l.Sublist (asked asks calls) := by
          rcases List.cons_sublist_cons'.1 hsub with hsub | ⟨-, hsub⟩
          · exact (List.sublist_cons_self u l).trans hsub
          · exact hsub
        refine Nat.succ_le_succ (ih hcounted hnext hrest htail hl fun t ht v hv => ?_)
        rcases ht with ht | rfl
        · exact hpast t ht v (List.mem_cons_of_mem u hv)
        · have hv' := hu v hv
          unfold Moment.Apart at *
          omega
      · -- the gate is closed, so the moment is too close to a past one to be selected
        rw [if_neg fun hboth => hpass hboth.2, List.nil_append]
        refine ih (h.others hnow fun hboth => hpass hboth.2) hnext hrest ?_ hapart hpast
        rcases List.sublist_cons_iff.1 hsub with hsub | ⟨l', rfl, -⟩
        · exact hsub
        · refine absurd ((h.passes_iff hnow hi).2 fun t ht => ?_) hpass
          have hlong := hpast t ht time List.mem_cons_self
          unfold Moment.Apart at hlong
          rw [Moment.since_lt_iff]
          omega
    · rw [asked_cons_of_not hi] at hsub
      rw [if_neg fun hboth => hi hboth.1, List.nil_append]
      exact ih (h.others hnow fun hboth => hi hboth.1) hnext hrest hsub hapart hpast

/-- **What passes is a largest selection.** -/
theorem isGreatest_length_passed (h : KeepsSpacing d asks passes Knows) (hpos : 0 < d.toNanos)
    (hnew : Knows g .start fun _ => False) (hclock : InOrder calls) :
    IsGreatest (Moment.selectionSizes d (asked asks calls))
      (passed asks passes g calls).length := by
  have hstart : ∀ c ∈ calls, Moment.start.toNanos ≤ c.1.toNanos := fun _ _ => Nat.zero_le _
  constructor
  · exact ⟨_, passed_sublist_asked g calls,
      (h.pairwise_passed hpos hnew hstart hclock).2.imp fun hst => .inl hst, rfl⟩
  · rintro n ⟨l, hsub, hsep, rfl⟩
    have horder := (pairwise_asked hclock).sublist hsub
    exact h.length_le_passed hnew hstart hclock hsub
      (Moment.pairwise_apart_of_separate hpos horder hsep) fun _ ht => ht.elim

/-- **Further calls never lower what passes**: what has passed without them is still
a selection. -/
theorem length_passed_mono (h : KeepsSpacing d asks passes Knows) (hpos : 0 < d.toNanos)
    (hnew : Knows g .start fun _ => False) (hclock : InOrder calls')
    (hsub : calls.Sublist calls') :
    (passed asks passes g calls).length ≤ (passed asks passes g calls').length := by
  obtain ⟨⟨l, hl, hsep, hlen⟩, -⟩ := h.isGreatest_length_passed hpos hnew (hclock.sublist hsub)
  obtain ⟨-, hmax⟩ := h.isGreatest_length_passed hpos hnew hclock
  exact hmax ⟨l, hl.trans (asked_sublist hsub), hsep, hlen⟩

end KeepsSpacing

end Gate

/-- **Gates admit all they can.** In every run of a new gate at moments that do not
turn back, the number of checks that pass the global gate is the largest number of
moments that can be selected out of those of the checks, any two a spacing apart;
and a run with further checks anywhere in it has no fewer. The same is true of the
checks of a domain and their admissions, whatever else the domain gate was called
for in between. -/
theorem gates_admit_all_they_can (rate : UInt32) :
    (∀ calls, Gate.InOrder calls →
      IsGreatest (Moment.selectionSizes (spacing rate globalPeriod) (calls.map Prod.fst))
        (GlobalGate.passes (.ofRate rate) calls).length) ∧
      (∀ calls calls', Gate.InOrder calls' → calls.Sublist calls' →
        (GlobalGate.passes (.ofRate rate) calls).length
          ≤ (GlobalGate.passes (.ofRate rate) calls').length) ∧
      ∀ x : String,
        (∀ calls, Gate.InOrder calls →
          IsGreatest (Moment.selectionSizes (spacing rate domainPeriod)
              ((calls.filter fun c => c.2.isCheckOf x).map Prod.fst))
            (DomainGate.admissions x (.ofRate rate) calls).length) ∧
        (∀ calls calls', Gate.InOrder calls' → calls.Sublist calls' →
          (DomainGate.admissions x (.ofRate rate) calls).length
            ≤ (DomainGate.admissions x (.ofRate rate) calls').length) := by
  have hglobal : 0 < (spacing rate globalPeriod).toNanos := toNanos_spacing_pos rate (by decide)
  have hdomain : 0 < (spacing rate domainPeriod).toNanos := toNanos_spacing_pos rate (by decide)
  refine ⟨fun calls hclock => ?_, fun calls calls' hclock hsub => ?_, fun x => ⟨?_, ?_⟩⟩
  · have hmost := (GlobalGate.keepsSpacing rate).isGreatest_length_passed hglobal
      (GlobalGate.knows_ofRate rate _) hclock
    have hall : Gate.asked (fun _ => true) calls = calls.map Prod.fst := by
      unfold Gate.asked
      rw [List.filter_true]
    rwa [hall] at hmost
  · exact (GlobalGate.keepsSpacing rate).length_passed_mono hglobal
      (GlobalGate.knows_ofRate rate _) hclock hsub
  · exact fun calls hclock => (DomainGate.keepsSpacing rate x).isGreatest_length_passed hdomain
      (DomainGate.knows_ofRate rate x _) hclock
  · exact fun calls calls' hclock hsub => (DomainGate.keepsSpacing rate x).length_passed_mono
      hdomain (DomainGate.knows_ofRate rate x _) hclock hsub

/-- At one admission of a domain in five minutes, of three checks the first and the
last are admitted, just a spacing apart. Without the one that is denied in between
there are no more. -/
theorem gates_admit_all_they_can_past_denials :
    let calls : List (Moment × DomainCall) :=
      [(.start, .check "a"),
        (⟨200, 0, by decide, by decide⟩, .check "a"),
        (⟨200, 0, by decide, by decide⟩, .check "b"),
        (⟨300, 0, by decide, by decide⟩, .check "a"),
        (⟨301, 0, by decide, by decide⟩, .prune)]
    let fewer := calls.eraseIdx 1
    Gate.InOrder calls ∧ fewer.Sublist calls ∧
      (DomainGate.admissions "a" (.ofRate 1) calls).map Moment.toNanos = [0, 300_000_000_000] ∧
      IsGreatest (Moment.selectionSizes (spacing 1 domainPeriod)
          ((calls.filter fun c => c.2.isCheckOf "a").map Prod.fst))
        (DomainGate.admissions "a" (.ofRate 1) calls).length ∧
      (DomainGate.admissions "a" (.ofRate 1) fewer).length
        ≤ (DomainGate.admissions "a" (.ofRate 1) calls).length := by
  intro calls fewer
  have hclock : Gate.InOrder calls := by decide +kernel
  have hsub : fewer.Sublist calls := List.eraseIdx_sublist calls 1
  obtain ⟨-, -, hdomain⟩ := gates_admit_all_they_can 1
  exact ⟨hclock, hsub, by decide +kernel, (hdomain "a").1 calls hclock,
    (hdomain "a").2 fewer calls hclock hsub⟩

end Herald

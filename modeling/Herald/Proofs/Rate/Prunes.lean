import Herald.Proofs.Rate.Latest
import Herald.Rate.Calls
import Mathlib.Data.List.Nodup
/-!
# Prunes are invisible

A gate that is pruned now and then is compared with one that never is. Between
two prunes the two drift apart, by windows that only the second has, and they
come together again where such a domain is checked. All that can be told apart
is in `PrunedFrom`: the first has lost some windows of the second, each of them
stale, and has the others as they are. A stale window would not have denied its
domain, so both answer alike and the relation goes on (`PrunedFrom.check`); and
right after a prune nothing is left of what was done before (`PrunedFrom.entries_prune`).
-/

namespace Herald

namespace Store

variable {κ ν : Type} {s t : Store κ ν}

/-- Entries are different, since their keys are. -/
theorem nodup_entries (s : Store κ ν) : s.entries.Nodup :=
  List.Nodup.of_map Prod.fst s.keys_nodup

/-- **Part of a store.** Where each entry of one store is one of another, the
other has these entries and those of the keys that the first has none for. -/
theorem perm_of_get?_subset [DecidableEq κ]
    (h : ∀ k v, s.get? k = some v → t.get? k = some v) :
    (s.entries ++ t.entries.filter fun e => (s.get? e.1).isNone).Perm t.entries := by
  have hdisjoint : ∀ a ∈ s.entries, ∀ b ∈ t.entries.filter fun e => (s.get? e.1).isNone,
      a ≠ b := by
    rintro a ha b hb rfl
    have hsome : s.get? a.1 = some a.2 := get?_eq_some_iff.2 ha
    simp [hsome] at hb
  refine (List.perm_ext_iff_of_nodup
    (List.nodup_append.2 ⟨s.nodup_entries, t.nodup_entries.filter _, hdisjoint⟩)
    t.nodup_entries).2 fun e => ?_
  rw [List.mem_append, List.mem_filter]
  constructor
  · rintro (he | ⟨he, -⟩)
    · exact get?_eq_some_iff.1 (h e.1 e.2 (get?_eq_some_iff.2 he))
    · exact he
  · intro he
    cases hs : s.get? e.1 with
    | none => exact .inr ⟨he, rfl⟩
    | some v =>
      have hv : some v = some e.2 := (h e.1 v hs).symm.trans (get?_eq_some_iff.2 he)
      exact .inl (get?_eq_some_iff.1 (hs.trans hv))

end Store

namespace DomainGate

variable {g full : DomainGate} {now later : Moment}

/-! ## A prune and the next one -/

/-- The count of a prune is the number of stale windows. -/
theorem fst_prune (g : DomainGate) (now : Moment) :
    (g.prune now).1 = (g.windows.entries.filter fun e => e.2.isStale now g.maxAge).length := by
  simp [prune, Store.sweep, sweepEntries_pruneVisit]

/-- **A second prune at the same moment finds nothing to do.** -/
theorem prune_prune (g : DomainGate) (now : Moment) :
    (g.prune now).2.prune now = (0, (g.prune now).2) := by
  have hage : (g.prune now).2.maxAge = g.maxAge := rfl
  refine Prod.ext ?_ (ext_entries rfl ?_)
  · rw [fst_prune, entries_prune, hage, List.filter_filter]
    simp
  · rw [entries_prune, entries_prune, hage, List.filter_filter]
    simp

/-- No call changes the rate. -/
@[simp] theorem rate_after (g : DomainGate) (calls : List (Moment × DomainCall)) :
    (Gate.after g calls).rate = g.rate := by
  induction calls generalizing g with
  | nil => rfl
  | cons c calls ih =>
    obtain ⟨time, _ | _⟩ := c <;> simp [ih]

/-- A window is stale when it is older than twice the spacing of its gate's
rate. -/
theorem isStale_maxAge_iff {rate : UInt32} (hrate : g.rate = rate) {w : RateWindow} :
    w.isStale now g.maxAge = true ↔
      2 * (Herald.spacing rate domainPeriod).toNanos < (now.since w.lastAdmitted).toNanos := by
  subst hrate
  rw [RateWindow.isStale_iff, toNanos_maxAge, Moment.toNanos_since]
  rfl

/-! ## A gate that was pruned -/

/-- **A gate was pruned from another** by a moment: it has lost some windows of
the other, all of them stale by then, and has the rest as they are. -/
structure PrunedFrom (g full : DomainGate) (now : Moment) : Prop where
  rate : g.rate = full.rate
  kept : ∀ x w, g.window x = some w → full.window x = some w
  lost : ∀ x w, full.window x = some w → g.window x = none → w.isStale now full.maxAge = true

namespace PrunedFrom

/-- A gate that was never pruned has lost nothing. -/
theorem refl (g : DomainGate) (now : Moment) : g.PrunedFrom g now where
  rate := rfl
  kept _ _ hw := hw
  lost x w hw hnone := by rw [hw] at hnone; cases hnone

/-- Both call the same windows stale. -/
theorem maxAge_eq (h : g.PrunedFrom full now) : g.maxAge = full.maxAge := by
  obtain ⟨r, ws⟩ := g
  obtain ⟨r', ws'⟩ := full
  obtain rfl : r = r' := h.rate
  rfl

/-- What is stale stays so. -/
theorem at_later (h : g.PrunedFrom full now) (hle : now.toNanos ≤ later.toNanos) :
    g.PrunedFrom full later where
  rate := h.rate
  kept := h.kept
  lost x w hw hnone := by
    have hstale := h.lost x w hw hnone
    rw [RateWindow.isStale_iff] at hstale ⊢
    omega

/-- **A check is answered alike** by both, since no window that was lost would
have denied its domain. -/
theorem check_fst (h : g.PrunedFrom full now) (x : String) :
    (g.check x now).1 = (full.check x now).1 := by
  have hspacing : g.spacing = full.spacing := congrArg (Herald.spacing · domainPeriod) h.rate
  rw [Bool.eq_iff_iff, check_admitted_iff, check_admitted_iff, hspacing]
  constructor
  · intro hopen w hw
    cases hg : g.window x with
    | none => exact isOpen_of_isStale (h.lost x w hw hg) (Nat.le_refl _)
    | some v =>
      obtain rfl : v = w := Option.some.inj ((h.kept x v hg).symm.trans hw)
      exact hopen v hg
  · exact fun hopen w hw => hopen w (h.kept x w hw)

/-- **A check does the same to both**: an admitted domain has its window in both again, whether it
was lost or not. -/
theorem check (h : g.PrunedFrom full now) (x : String) :
    (g.check x now).2.PrunedFrom (full.check x now).2 now := by
  have hanswer := h.check_fst x
  by_cases hadm : (g.check x now).1 = true
  · -- the same window is written into both, over whatever either had
    have hadm' : (full.check x now).1 = true := hanswer ▸ hadm
    exact {
      rate := h.rate
      kept := fun y w hw => by
        rw [window_check_admitted hadm] at hw
        rw [window_check_admitted hadm']
        by_cases hy : y = x
        · simpa [hy] using hw
        · rw [if_neg hy] at hw ⊢
          exact h.kept y w hw
      lost := fun y w hw hnone => by
        rw [window_check_admitted hadm] at hnone
        rw [window_check_admitted hadm'] at hw
        by_cases hy : y = x
        · simp [hy] at hnone
        · rw [if_neg hy] at hw hnone
          exact h.lost y w hw hnone }
  · have hden : (g.check x now).1 = false := by simpa using hadm
    rw [check_denied hden, check_denied (hanswer ▸ hden)]
    exact h

/-- A prune only takes away what is stale. -/
theorem prune (h : g.PrunedFrom full now) : (g.prune now).2.PrunedFrom full now where
  rate := h.rate
  kept x w hw := by
    rw [window_prune, Option.filter_eq_some_iff] at hw
    exact h.kept x w hw.1
  lost x w hw hnone := by
    cases hg : g.window x with
    | none => exact h.lost x w hw hg
    | some v =>
      -- this prune took it, by the same limit
      obtain rfl : v = w := Option.some.inj ((h.kept x v hg).symm.trans hw)
      rw [window_prune, hg, h.maxAge_eq] at hnone
      simpa [Option.filter] using hnone

/-- **What was lost**: the other gate has the windows of this one and some more,
and those are stale. -/
theorem perm_entries (h : g.PrunedFrom full now) :
    ∃ lost, (g.windows.entries ++ lost).Perm full.windows.entries
      ∧ ∀ e ∈ lost, e.2.isStale now full.maxAge = true := by
  refine ⟨_, Store.perm_of_get?_subset h.kept, fun e he => ?_⟩
  obtain ⟨he, hnone⟩ := List.mem_filter.1 he
  exact h.lost e.1 e.2 (Store.get?_eq_some_iff.2 he) (Option.isNone_iff_eq_none.1 hnone)

/-- **A prune makes up for all that came before it**: what it leaves are the
windows of the other gate that are not stale. -/
theorem entries_prune (h : g.PrunedFrom full now) :
    (g.prune now).2.windows.entries.Perm
      (full.windows.entries.filter fun e => !e.2.isStale now full.maxAge) := by
  refine (List.perm_ext_iff_of_nodup (Store.nodup_entries _)
    (full.windows.nodup_entries.filter _)).2 fun e => ?_
  have hg : e ∈ g.windows.entries ↔ g.window e.1 = some e.2 := Store.get?_eq_some_iff.symm
  have hf : e ∈ full.windows.entries ↔ full.window e.1 = some e.2 := Store.get?_eq_some_iff.symm
  rw [DomainGate.entries_prune, List.mem_filter, List.mem_filter, hg, hf, h.maxAge_eq]
  refine and_congr_left fun hfresh => ⟨h.kept e.1 e.2, fun hw => ?_⟩
  cases hw' : g.window e.1 with
  | none => simp [h.lost e.1 e.2 hw hw'] at hfresh
  | some v => exact congrArg some (Option.some.inj ((h.kept e.1 v hw').symm.trans hw))

/-- **A whole run** keeps a pruned gate and one that is not in step, where the
clock does not turn back: every check is answered alike, and in the end only
stale windows have been lost. -/
theorem run {calls : List (Moment × DomainCall)} (h : g.PrunedFrom full now)
    (hstart : ∀ c ∈ calls, now.toNanos ≤ c.1.toNanos)
    (hclock : calls.Pairwise fun c d => c.1.toNanos ≤ d.1.toNanos) :
    (Gate.answers g calls).filter DomainAnswer.isChecked
        = Gate.answers full (calls.filter fun c => c.2.isCheck) ∧
      ∀ later : Moment, now.toNanos ≤ later.toNanos →
        (∀ c ∈ calls, c.1.toNanos ≤ later.toNanos) →
        (Gate.after g calls).PrunedFrom
          (Gate.after full (calls.filter fun c => c.2.isCheck)) later := by
  induction calls generalizing g full now with
  | nil => exact ⟨rfl, fun later hle _ => h.at_later hle⟩
  | cons c calls ih =>
    obtain ⟨time, call⟩ := c
    obtain ⟨hnext, hrest⟩ := List.pairwise_cons.1 hclock
    have hnow : g.PrunedFrom full time := h.at_later (List.forall_mem_cons.1 hstart).1
    -- a check is made by both, a prune by the first alone
    cases call with
    | check x =>
      obtain ⟨hanswers, hafter⟩ := ih (hnow.check x) hnext hrest
      refine ⟨?_, fun later _ hlater => ?_⟩
      · simp [List.filter_cons, hanswers, hnow.check_fst x]
      · obtain ⟨htime, hcalls⟩ := List.forall_mem_cons.1 hlater
        simpa [List.filter_cons] using hafter later htime hcalls
    | prune =>
      obtain ⟨hanswers, hafter⟩ := ih hnow.prune hnext hrest
      refine ⟨?_, fun later _ hlater => ?_⟩
      · simp [hanswers]
      · obtain ⟨htime, hcalls⟩ := List.forall_mem_cons.1 hlater
        simpa [List.filter_cons] using hafter later htime hcalls

end PrunedFrom

end DomainGate

/-- **Prunes are invisible, and what they leave depends on the present alone.**
Calls of a new gate, at moments that do not turn back, are compared with its
checks alone. All checks are answered alike. At every moment from the last call
on, the gate has the windows that it would have without prunes but for some that
are older than twice the spacing; a prune then leaves exactly those that are not,
whatever was pruned before, and answers by how many windows there are fewer;
and a second one at that moment answers with none and changes nothing. -/
theorem prunes_are_invisible (rate : UInt32) (calls : List (Moment × DomainCall))
    (hclock : calls.Pairwise fun c d => c.1.toNanos ≤ d.1.toNanos) :
    let new := DomainGate.ofRate rate
    let checks := calls.filter fun c => c.2.isCheck
    let pruned := Gate.after new calls
    let full := Gate.after new checks
    let limit := 2 * (spacing rate domainPeriod).toNanos
    (Gate.answers new calls).filter DomainAnswer.isChecked = Gate.answers new checks ∧
      ∀ now : Moment, (∀ c ∈ calls, c.1.toNanos ≤ now.toNanos) →
        (∃ lost, (pruned.windows.entries ++ lost).Perm full.windows.entries ∧
          ∀ e ∈ lost, limit < (now.since e.2.lastAdmitted).toNanos) ∧
        (pruned.prune now).2.windows.entries.Perm
          (full.windows.entries.filter fun e =>
            (now.since e.2.lastAdmitted).toNanos ≤ limit) ∧
        (pruned.prune now).1 + (pruned.prune now).2.size = pruned.size ∧
        (pruned.prune now).2.prune now = (0, (pruned.prune now).2) := by
  intro new checks pruned full limit
  have hstart : ∀ c ∈ calls, Moment.start.toNanos ≤ c.1.toNanos := fun c _ => Nat.zero_le _
  obtain ⟨hanswers, hafter⟩ := (DomainGate.PrunedFrom.refl new .start).run hstart hclock
  refine ⟨hanswers, fun now hnow => ?_⟩
  have h : pruned.PrunedFrom full now := hafter now (Nat.zero_le _) hnow
  have hold : ∀ w : RateWindow, w.isStale now full.maxAge = true
      ↔ limit < (now.since w.lastAdmitted).toNanos := fun w =>
    DomainGate.isStale_maxAge_iff (DomainGate.rate_after new checks)
  obtain ⟨lost, hperm, hlost⟩ := h.perm_entries
  refine ⟨⟨lost, hperm, fun e he => (hold e.2).1 (hlost e he)⟩, ?_, pruned.prune_count now,
    pruned.prune_prune now⟩
  have hfresh : (full.windows.entries.filter fun e => !e.2.isStale now full.maxAge)
      = full.windows.entries.filter fun e => (now.since e.2.lastAdmitted).toNanos ≤ limit :=
    List.filter_congr fun e _ => Bool.eq_iff_iff.2 (by simp [← Bool.not_eq_true, hold e.2])
  exact hfresh ▸ h.entries_prune

/-- At one admission in five minutes: a domain that has been idle for just ten
minutes is kept by a prune, and a second later it is not; it is then admitted
again, while another is kept and denied. -/
theorem prunes_are_invisible_past_a_readmission :
    let calls : List (Moment × DomainCall) :=
      [(.start, .check "a"),
        (⟨500, 0, by decide, by decide⟩, .check "b"),
        (⟨600, 0, by decide, by decide⟩, .prune),
        (⟨601, 0, by decide, by decide⟩, .prune),
        (⟨601, 0, by decide, by decide⟩, .check "a"),
        (⟨602, 0, by decide, by decide⟩, .check "b")]
    Gate.answers (DomainGate.ofRate 1) calls
        = [.checked true, .checked true, .pruned 0, .pruned 1, .checked true, .checked false] ∧
      (Gate.answers (DomainGate.ofRate 1) calls).filter DomainAnswer.isChecked
        = Gate.answers (DomainGate.ofRate 1) (calls.filter fun c => c.2.isCheck) := by
  intro calls
  exact ⟨by decide +kernel, (prunes_are_invisible 1 calls (by decide)).1⟩

end Herald

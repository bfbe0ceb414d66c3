import Herald.Proofs.Dispatch.Shared
/-!
# A caller left alone

Where nobody comes between its steps, a caller of a shared dispatcher does what
the dispatcher does in one piece: its two steps are a check (`check_alone`),
and a start, a visit to every tracked domain in whatever order and an end are a
prune (`prune_alone`). So the steps are no other program than the calls.
-/

namespace Herald

namespace DomainGate

/-- The visit to one entry is a filter of the entries. -/
theorem entries_pruneEntry (g : DomainGate) (domain : String) (now : Moment) :
    (g.pruneEntry domain now).windows.entries
      = g.windows.entries.filter fun e => e.1 ≠ domain || !e.2.isStale now g.maxAge := by
  simp only [pruneEntry, Store.retainAt, Store.entries_retain, ← List.filterMap_eq_filter]
  congr 1
  funext e
  by_cases hd : e.1 = domain <;> by_cases hs : e.2.isStale now g.maxAge = true <;>
    simp [hd, hs, Option.guard, Prod.ext_iff]

/-- Visits to some entries, one after the other. -/
def pruneEntries (g : DomainGate) (domains : List String) (now : Moment) : DomainGate :=
  domains.foldl (fun g x => g.pruneEntry x now) g

/-- Visits keep the rate. -/
@[simp] theorem rate_pruneEntries (g : DomainGate) (domains : List String) (now : Moment) :
    (g.pruneEntries domains now).rate = g.rate := by
  induction domains generalizing g with
  | nil => rfl
  | cons x domains ih => exact ih (g.pruneEntry x now)

/-- What visits keep does not depend on their order. -/
theorem entries_pruneEntries (g : DomainGate) (domains : List String) (now : Moment) :
    (g.pruneEntries domains now).windows.entries
      = g.windows.entries.filter fun e => e.1 ∉ domains || !e.2.isStale now g.maxAge := by
  induction domains generalizing g with
  | nil => exact (List.filter_eq_self.2 (by simp)).symm
  | cons x domains ih =>
    have hage : (g.pruneEntry x now).maxAge = g.maxAge := rfl
    rw [pruneEntries, List.foldl_cons, ← pruneEntries, ih, entries_pruneEntry, List.filter_filter,
      hage]
    refine List.filter_congr fun e _ => ?_
    by_cases hx : e.1 = x <;> by_cases hs : e.2.isStale now g.maxAge = true <;> simp [hx, hs]

/-- Visits remove windows or leave them. -/
theorem size_pruneEntries_le (g : DomainGate) (domains : List String) (now : Moment) :
    (g.pruneEntries domains now).size ≤ g.size := by
  rw [size, size, Store.size, Store.size, entries_pruneEntries]
  exact List.length_filter_le _ _

/-- **Visits to all entries are a prune.** -/
theorem pruneEntries_eq_prune {g : DomainGate} {domains : List String} {now : Moment}
    (hall : ∀ x, g.window x ≠ none → x ∈ domains) :
    g.pruneEntries domains now = (g.prune now).2 := by
  refine ext_entries (by simp) ?_
  rw [entries_pruneEntries, entries_prune]
  refine List.filter_congr fun e he => ?_
  have hmem : e.1 ∈ domains := by
    refine hall e.1 ?_
    rw [window, Store.get?_eq_some_iff.2 he]
    exact Option.some_ne_none _
  simp [hmem]

end DomainGate

namespace SharedDispatcher

variable {ι : Type} [DecidableEq ι] {w : SharedDispatcher ι} {i : ι}

theorem after_cons (w : SharedDispatcher ι) (a : SharedStep ι) (steps : List (SharedStep ι)) :
    w.after (a :: steps) = (w.step a).after steps := rfl

/-- A run in two parts. -/
theorem after_append (w : SharedDispatcher ι) (steps steps' : List (SharedStep ι)) :
    w.after (steps ++ steps') = (w.after steps).after steps' :=
  List.foldl_append

/-- A caller who moves twice stands where it went last. -/
theorem place_place {w' : SharedDispatcher ι} {q : Caller} (h : w'.caller = w.place i q)
    (q' : Caller) : w'.place i q' = w.place i q' := by
  funext j
  by_cases hj : j = i <;> simp [place, h, hj]

/-- **Two steps in a row are a check.** -/
theorem check_alone (hi : w.caller i = .idle) (domain : String) :
    let w' := w.after [.askGlobal i domain, .askDomain i]
    (w'.dispatcher, w'.clock) = (w.dispatcher.check domain w.clock).2 ∧ w'.caller i = .idle := by
  intro w'
  simp only [w', after, List.foldl_cons, List.foldl_nil, step, hi, askGlobal,
    Dispatcher.askGlobal_eq, Dispatcher.check_eq]
  rcases hr : w.clock.read with ⟨f | now, c⟩
  · simp [hi]
  · obtain ⟨rfl, rfl, hf, hb⟩ := Clock.read_ok hr
    rcases hp : w.dispatcher.passGlobal w.clock.time with ⟨_ | _, d⟩
    · simp [hi, Dispatcher.checkAt, hp]
    · simp [place, askDomain, Dispatcher.askDomain_eq, Dispatcher.checkAt, hp, hr]

/-- Visits in a row prune their entries, with the moment the prune started at. -/
theorem after_visits {started : Moment} {removed : Nat}
    (hi : w.caller i = .pruning started removed) (domains : List String) :
    let g := w.dispatcher.domainGate
    let g' := g.pruneEntries domains started
    w.after (domains.map (.visit i)) =
      { w with
        dispatcher := { w.dispatcher with domainGate := g' }
        caller := w.place i (.pruning started (removed + (g.size - g'.size))) } := by
  induction domains generalizing w removed with
  | nil =>
    have hplace : w.place i (.pruning started removed) = w.caller := by
      funext j
      by_cases hj : j = i <;> simp [place, hj, hi]
    simp [after, DomainGate.pruneEntries, hplace]
  | cons x domains ih =>
    intro g g'
    have hstep : w.step (.visit i x) = w.visit i started removed x := by simp only [step, hi]
    have hi' : (w.visit i started removed x).caller i
        = .pruning started (removed + (g.size - (g.pruneEntry x started).size)) := by
      simp [visit, place, g]
    -- what a visit removes and what the visits behind it remove add up
    have hfirst : (g.pruneEntry x started).size ≤ g.size := g.size_pruneEntries_le [x] started
    have hrest : g'.size ≤ (g.pruneEntry x started).size :=
      (g.pruneEntry x started).size_pruneEntries_le domains started
    have hsum : removed + (g.size - (g.pruneEntry x started).size)
        + ((g.pruneEntry x started).size - g'.size) = removed + (g.size - g'.size) := by omega
    have hplace : (w.visit i started removed x).place i
        (.pruning started (removed + (g.size - (g.pruneEntry x started).size)
          + ((g.pruneEntry x started).size - g'.size)))
        = w.place i (.pruning started (removed + (g.size - g'.size))) := by
      rw [place_place rfl, hsum]
    rw [List.map_cons, after_cons, hstep, ih hi', ← hplace]
    rfl

/-- A caller in no prune visits nothing. -/
theorem after_visits_idle (hi : w.caller i = .idle) (domains : List String) :
    w.after (domains.map (.visit i)) = w := by
  induction domains with
  | nil => rfl
  | cons x domains ih =>
    have hstep : w.step (.visit i x) = w := by simp only [step, hi]
    rw [List.map_cons, after_cons, hstep, ih]

/-- **A start, visits to all tracked domains and an end are a prune.** -/
theorem prune_alone (hi : w.caller i = .idle) {domains : List String}
    (hall : ∀ x, w.dispatcher.domainGate.window x ≠ none → x ∈ domains) :
    let w' := w.after (.startPrune i :: domains.map (.visit i) ++ [.endPrune i])
    (w'.dispatcher, w'.clock) = (w.dispatcher.prune w.clock).2 ∧ w'.caller i = .idle := by
  intro w'
  simp only [w', after_cons, after_append]
  rw [Dispatcher.prune_eq]
  rcases hr : w.clock.read with ⟨f | now, c⟩
  · have hstart : w.step (.startPrune i) = { w with clock := c } := by
      simp only [step, hi, startPrune, hr]
    rw [hstart, after_visits_idle (w := { w with clock := c }) hi]
    simp [after, step, hi]
  · have hstart : w.step (.startPrune i)
        = { w with clock := c, caller := w.place i (.pruning now 0) } := by
      simp only [step, hi, startPrune, hr]
    have hcount : w.dispatcher.domainGate.size - (w.dispatcher.domainGate.prune now).2.size
        = (w.dispatcher.domainGate.prune now).1 := by
      have := w.dispatcher.domainGate.prune_count now
      omega
    have hi' : ({ w with clock := c, caller := w.place i (.pruning now 0) } :
        SharedDispatcher ι).caller i = .pruning now 0 := by simp [place]
    rw [hstart, after_visits hi']
    simp [DomainGate.pruneEntries_eq_prune hall, after, step, place, endPrune, hcount,
      Dispatcher.pruneAt_snd]

end SharedDispatcher

end Herald

import Herald.Proofs.Pruning.Course
import Herald.Pruning.Timeline
import Mathlib.Algebra.Order.BigOperators.Group.List
import Mathlib.Algebra.Order.Group.Nat
/-!
# What loops do on a line of time

A line of time decides when its loops tick and does nothing else to the service. For any
one of its loops all that happens there, to this loop and to the others, is a course of
steps (`tended?_next`, `tended?_passing`), so that all that is said of courses is said of
a loop that is started on a line of time (`exists_course_of_spawn`). The one thing that a
course has no step for is that another loop is stopped, for the service is told of that by
no command.

And no tick is passed by: at no time is one overdue (`settled_passing`). A tick moves the
next one of its loop on by a stride at least, so there are no more of them than are
counted beforehand (`isDue_ticksUntil`).
-/

namespace Herald

/-- What can happen on a line of time. -/
inductive TimelineStep where
  | spawn (l : PruneLoop)
  | sleep (d : Span)
  | jump (d : Span)
  | stop (number : Nat)
  | release (number : Nat)
  /-- The service is called. -/
  | elsewhere (c : Command)

/-- Steps that are ticks, for a loop among others: its own ticks, and prunes from elsewhere
for the ticks of the others. -/
def LoopStep.AreTicks (steps : List LoopStep) : Prop :=
  ∀ a ∈ steps, a = .tick ∨ a = .elsewhere .prune

theorem LoopStep.areTicks_nil : AreTicks [] := fun _ h => nomatch h

theorem LoopStep.AreTicks.append {xs ys : List LoopStep} (hx : AreTicks xs) (hy : AreTicks ys) :
    AreTicks (xs ++ ys) := fun a ha => (List.mem_append.1 ha).elim (hx a) (hy a)

/-- **What a loop on a line of time and its service see** of a step there. -/
inductive TimelineStep.Brings (number : Nat) : TimelineStep → List LoopStep → Prop
  /-- The first tick of another loop is no prune. -/
  | spawn (l : PruneLoop) : Brings number (.spawn l) []
  /-- Ticks come with time. -/
  | sleep (d : Span) {steps : List LoopStep} (h : LoopStep.AreTicks steps) :
      Brings number (.sleep d) steps
  | jump (d : Span) {steps : List LoopStep} (h : LoopStep.AreTicks steps) :
      Brings number (.jump d) steps
  | stop : Brings number (.stop number) [.requestStop, .takeStop]
  /-- A loop whose handle is gone is not stopped. -/
  | unheld : Brings number (.stop number) []
  | release (other : Nat) : Brings number (.release other) []
  | elsewhere (c : Command) : Brings number (.elsewhere c) [.elsewhere c]

/-- **What a tick does to the service** is a prune or nothing. -/
theorem PruneLoop.tick_snd (l : PruneLoop) (s : Service) :
    (l.tick s).2 = s ∨ (l.tick s).2 = (s.step .prune).2 := by
  cases hphase : l.phase with
  | running => exact .inr (by rw [tick_of_running hphase])
  | _ => exact .inl (by simp [tick, hphase])

/-- A loop that has taken up a request was alive if it still is. -/
theorem PruneLoop.isAlive_of_stop {l : PruneLoop} {s : Service}
    (h : (l.stop s).2.1.isAlive = true) : l.isAlive = true := by
  cases hphase : l.phase <;>
    simp [stop, requestStop, takeStop, isAlive, hphase] at h ⊢

namespace Timeline

variable {t : Timeline} {s : Service} {limit number : Nat} {leap : Option Nat} {m : Tended}

/-- **One step** on a line of time. -/
def next (w : Timeline × Service) : TimelineStep → Timeline × Service
  | .spawn l => w.1.spawn l w.2
  | .sleep d => w.1.sleep w.2 d
  | .jump d => (w.1.jump w.2 d).2
  | .stop number =>
    match w.1.held? number with
    | some k => (w.1.stop w.2 number k).2
    | none => w
  | .release number => (w.1.release number, w.2)
  | .elsewhere c => (w.1, (w.2.step c).2)

theorem next_spawn (t : Timeline) (s : Service) (l : PruneLoop) :
    next (t, s) (.spawn l) = t.spawn l s := rfl

theorem next_sleep (t : Timeline) (s : Service) (d : Span) :
    next (t, s) (.sleep d) = t.sleep s d := rfl

theorem next_jump (t : Timeline) (s : Service) (d : Span) :
    next (t, s) (.jump d) = t.leap s d := rfl

theorem next_stop_of_held? {k : Ticker} (h : t.held? number = some k) (s : Service) :
    next (t, s) (.stop number) = (t.stop s number k).2 := by
  unfold next
  simp only [h]

theorem next_stop_of_not_held? (h : t.held? number = none) (s : Service) :
    next (t, s) (.stop number) = (t, s) := by
  unfold next
  simp only [h]

theorem next_release (t : Timeline) (s : Service) (number : Nat) :
    next (t, s) (.release number) = (t.release number, s) := rfl

theorem next_elsewhere (t : Timeline) (s : Service) (c : Command) :
    next (t, s) (.elsewhere c) = (t, (s.step c).2) := rfl

/-- Steps in a row. -/
def passing (w : Timeline × Service) (steps : List TimelineStep) : Timeline × Service :=
  steps.foldl next w

/-- The loop of a number with its service. -/
def tended? (w : Timeline × Service) (number : Nat) : Option Tended :=
  (w.1.tickers[number]?).map fun k => ⟨k.loop, w.2⟩

/-! ## The next tick -/

/-- What is found among loops is one that was found before, or one of them that is
due. -/
theorem foldl_sooner_eq_some {ps : List (Nat × Ticker)} {best : Option (Nat × Ticker)}
    {q : Nat × Ticker} (h : ps.foldl (sooner limit) best = some q) :
    best = some q ∨ (q ∈ ps ∧ isDue limit q.2 = true) := by
  induction ps generalizing best with
  | nil => exact .inl h
  | cons p ps ih =>
    rcases ih h with hbest | ⟨hmem, hdue⟩
    · unfold sooner at hbest
      split at hbest
      · next hdue =>
        have hcases : best = some q ∨ p = q := by
          rcases best with _ | b
          · exact .inr (Option.some.inj hbest)
          · dsimp only at hbest
            split at hbest
            · exact .inr (Option.some.inj hbest)
            · exact .inl hbest
        rcases hcases with hbest | rfl
        · exact .inl hbest
        · exact .inr ⟨List.mem_cons_self, hdue⟩
      · exact .inl hbest
    · exact .inr ⟨List.mem_cons_of_mem p hmem, hdue⟩

/-- If none is found, none of them is due. -/
theorem foldl_sooner_eq_none {ps : List (Nat × Ticker)} {best : Option (Nat × Ticker)}
    (h : ps.foldl (sooner limit) best = none) :
    best = none ∧ ∀ p ∈ ps, isDue limit p.2 = false := by
  induction ps generalizing best with
  | nil => exact ⟨h, fun p hp => nomatch hp⟩
  | cons p ps ih =>
    obtain ⟨hbest, hrest⟩ := ih h
    unfold sooner at hbest
    split at hbest
    · rcases best with _ | b
      · cases hbest
      · dsimp only at hbest
        split at hbest <;> cases hbest
    · next hdue => exact ⟨hbest, List.forall_mem_cons.2 ⟨by simpa using hdue, hrest⟩⟩

/-- **The next loop to tick** is one that is due. -/
theorem of_nextDue_eq_some {ts : List Ticker} {i : Nat} {k : Ticker}
    (h : nextDue limit ts = some (i, k)) : ts[i]? = some k ∧ isDue limit k = true := by
  rcases foldl_sooner_eq_some h with hnone | ⟨hmem, hdue⟩
  · cases hnone
  · obtain ⟨⟨k', i'⟩, hindex, heq⟩ := List.mem_map.1 hmem
    obtain ⟨rfl, rfl⟩ := Prod.mk.inj heq
    exact ⟨List.mem_zipIdx_iff_getElem?.1 hindex, hdue⟩

/-- If there is none, none is due. -/
theorem of_nextDue_eq_none {ts : List Ticker} (h : nextDue limit ts = none) :
    ∀ k ∈ ts, isDue limit k = false := by
  intro k hk
  obtain ⟨i, hi⟩ := List.mem_iff_getElem?.1 hk
  exact (foldl_sooner_eq_none h).2 (i, k)
    (List.mem_map.2 ⟨(k, i), List.mem_zipIdx_iff_getElem?.2 hi, rfl⟩)

/-- Up to a step there is one tick after another. -/
theorem ticksUntil_of_nextDue {i : Nat} {k : Ticker} (h : nextDue limit t.tickers = some (i, k))
    (leap : Option Nat) (fuel : Nat) (s : Service) :
    ticksUntil limit leap (fuel + 1) t s
      = ticksUntil limit leap fuel (t.tickAt s i k (leap.getD (t.atStep (stepOf k.due)))).1
        (t.tickAt s i k (leap.getD (t.atStep (stepOf k.due)))).2 := by
  rw [ticksUntil, h]

/-- The ticks up to a step come to an end. -/
theorem ticksUntil_of_nextDue_eq_none (h : nextDue limit t.tickers = none) (leap : Option Nat)
    (fuel : Nat) (s : Service) : ticksUntil limit leap (fuel + 1) t s = (t, s) := by
  rw [ticksUntil, h]

/-! ## Courses on a line of time -/

/-- A loop that is there. -/
theorem of_tended?_eq_some {w : Timeline × Service} (h : tended? w number = some m) :
    ∃ k, w.1.tickers[number]? = some k ∧ m = ⟨k.loop, w.2⟩ := by
  obtain ⟨k, hk, heq⟩ := Option.map_eq_some_iff.1 h
  exact ⟨k, hk, heq.symm⟩

@[simp] theorem tended?_setNow (t : Timeline) (now : Nat) (s : Service) (number : Nat) :
    tended? (t.setNow now, s) number = tended? (t, s) number := rfl

/-- **A tick on a line of time** is a tick of a loop, and for another one a prune from
elsewhere or nothing. -/
theorem tended?_tickAt {i : Nat} {k : Ticker} (hi : t.tickers[i]? = some k) (now : Nat)
    (hm : tended? (t, s) number = some m) :
    ∃ steps, LoopStep.AreTicks steps ∧
      tended? (t.tickAt s i k now) number = some (m.after steps) := by
  obtain ⟨k', hk', rfl⟩ := of_tended?_eq_some hm
  have hlt : i < t.tickers.length := (List.getElem?_eq_some_iff.1 hi).1
  by_cases heq : i = number
  · subst heq
    obtain rfl : k = k' := Option.some.inj (hi.symm.trans hk')
    refine ⟨[.tick], by simp [LoopStep.AreTicks], ?_⟩
    simp only [tended?, tickAt, List.getElem?_set_self hlt]
    rfl
  · have hother : tended? (t.tickAt s i k now) number = some ⟨k'.loop, (k.loop.tick s).2⟩ := by
      simp only [tended?, tickAt, List.getElem?_set_ne heq, hk']
      rfl
    rcases k.loop.tick_snd s with hsame | hprune
    · exact ⟨[], LoopStep.areTicks_nil, by rw [hother, hsame]; rfl⟩
    · exact ⟨[.elsewhere .prune], by simp [LoopStep.AreTicks], by rw [hother, hprune]; rfl⟩

/-- Up to a step there are ticks and nothing else. -/
theorem tended?_ticksUntil (limit : Nat) (leap : Option Nat) (fuel : Nat) {w : Timeline × Service}
    (hm : tended? w number = some m) :
    ∃ steps, LoopStep.AreTicks steps ∧
      tended? (ticksUntil limit leap fuel w.1 w.2) number = some (m.after steps) := by
  induction fuel generalizing w m with
  | zero => exact ⟨[], LoopStep.areTicks_nil, hm⟩
  | succ fuel ih =>
    rcases hnext : nextDue limit w.1.tickers with _ | ⟨i, k⟩
    · exact ⟨[], LoopStep.areTicks_nil, by rw [ticksUntil_of_nextDue_eq_none hnext, hm]; rfl⟩
    · obtain ⟨steps, hsteps, htick⟩ := tended?_tickAt (of_nextDue_eq_some hnext).1
        (leap.getD (w.1.atStep (stepOf k.due))) hm
      obtain ⟨rest, hrest, hafter⟩ := ih htick
      refine ⟨steps ++ rest, hsteps.append hrest, ?_⟩
      rw [ticksUntil_of_nextDue hnext, hafter, Tended.after_append]

/-- A loop that has been asked to stop and has taken that up. -/
theorem tended?_stop {k : Ticker} (hk : t.tickers[number]? = some k) (s : Service) :
    tended? (t.stop s number k).2 number
      = some ((Tended.mk k.loop s).after [.requestStop, .takeStop]) := by
  obtain ⟨r, hstop, -⟩ := Tended.after_stop ⟨k.loop, s⟩
  dsimp only at hstop
  simp only [tended?, stop, hstop, change, List.getElem?_modify_eq, hk]
  rfl

/-- **One step** on a line of time is a course of any loop there, unless it stops another
one. -/
theorem tended?_next {w : Timeline × Service} (hm : tended? w number = some m)
    {a : TimelineStep} (hspawn : ∀ l, a = .spawn l → l.phase = .starting)
    (hstop : ∀ other, a = .stop other → other = number) :
    ∃ steps, a.Brings number steps ∧ tended? (next w a) number = some (m.after steps) := by
  obtain ⟨t, s⟩ := w
  obtain ⟨k, hk, hmk⟩ := of_tended?_eq_some hm
  have hlt : number < t.tickers.length := (List.getElem?_eq_some_iff.1 hk).1
  cases a with
  | spawn l =>
    have hphase := hspawn l rfl
    refine ⟨[], .spawn l, ?_⟩
    rw [next_spawn]
    simp [spawn, PruneLoop.tick, hphase, tended?, List.getElem?_append_left hlt, hk, hmk]
  | sleep d =>
    obtain ⟨steps, hsteps, hafter⟩ := tended?_ticksUntil (stepOf (later t.now t.now d)) none
      (ticksWithin (stepOf (later t.now t.now d)) t.tickers) hm
    refine ⟨steps, .sleep d hsteps, ?_⟩
    rw [next_sleep, sleep, tended?_setNow]
    exact hafter
  | jump d =>
    obtain ⟨steps, hsteps, hafter⟩ := tended?_ticksUntil ((t.now + d.toNanos) / grain)
      (some (t.now + d.toNanos)) (ticksWithin ((t.now + d.toNanos) / grain) t.tickers) hm
    rw [next_jump]
    by_cases hend : t.now + d.toNanos < endOfTime
    · refine ⟨steps, .jump d hsteps, ?_⟩
      rw [leap, if_pos hend, tended?_setNow]
      exact hafter
    · refine ⟨[], .jump d LoopStep.areTicks_nil, ?_⟩
      rw [leap, if_neg hend]
      exact hm
  | stop other =>
    obtain rfl := hstop other rfl
    cases hheld : t.held? other with
    | some k' =>
      have hk' : t.tickers[other]? = some k' := (Option.filter_eq_some_iff.1 hheld).1
      obtain rfl : k = k' := Option.some.inj (hk.symm.trans hk')
      exact ⟨_, .stop, by rw [next_stop_of_held? hheld, tended?_stop hk, hmk]⟩
    | none => exact ⟨[], .unheld, by rw [next_stop_of_not_held? hheld, hm]; rfl⟩
  | release other =>
    refine ⟨[], .release other, ?_⟩
    rw [next_release]
    by_cases heq : other = number <;>
      simp [release, change, tended?, heq, hk, hmk]
  | elsewhere c =>
    refine ⟨[.elsewhere c], .elsewhere c, ?_⟩
    rw [next_elsewhere, hmk]
    simp only [tended?, hk]
    rfl

/-- **All that passes on a line of time** is a course of any loop there, as long as no
other one is stopped. -/
theorem tended?_passing {w : Timeline × Service} (hm : tended? w number = some m)
    {events : List TimelineStep} (hspawn : ∀ l, .spawn l ∈ events → l.phase = .starting)
    (hstop : ∀ other, .stop other ∈ events → other = number) :
    ∃ courses, events.Forall₂ (TimelineStep.Brings number) courses ∧
      tended? (passing w events) number = some (m.after courses.flatten) := by
  induction events generalizing w m with
  | nil => exact ⟨[], .nil, hm⟩
  | cons a events ih =>
    obtain ⟨steps, hsteps, hnext⟩ := tended?_next hm
      (fun l hl => hspawn l (hl ▸ List.mem_cons_self))
      (fun other ho => hstop other (ho ▸ List.mem_cons_self))
    obtain ⟨courses, hcourses, hafter⟩ := ih hnext
      (fun l hl => hspawn l (List.mem_cons_of_mem a hl))
      (fun other ho => hstop other (List.mem_cons_of_mem a ho))
    refine ⟨steps :: courses, .cons hsteps hcourses, ?_⟩
    rw [List.flatten_cons, Tended.after_append]
    exact hafter

/-- **A loop that is started on a line of time** is on a course from its start, and its
first tick comes at once. It keeps to its ticks there, as it does on any course. -/
theorem exists_course_of_spawn (t : Timeline) (s : Service) {l : PruneLoop}
    (hphase : l.phase = .starting) (hasked : l.stopRequested = false)
    {events : List TimelineStep} (hspawn : ∀ l, .spawn l ∈ events → l.phase = .starting)
    (hstop : ∀ other, .stop other ∈ events → other = t.tickers.length) :
    Tended.KeepsToTicks ⟨l, s⟩ ∧
      ∃ courses, events.Forall₂ (TimelineStep.Brings t.tickers.length) courses ∧
        tended? (passing (t, s) (.spawn l :: events)) t.tickers.length
          = some ((Tended.mk l s).after (.tick :: courses.flatten)) := by
  refine ⟨Tended.keepsToTicks hphase hasked s, ?_⟩
  have hfirst : tended? (next (t, s) (.spawn l)) t.tickers.length
      = some ((Tended.mk l s).step .tick) := by
    rw [next_spawn]
    simp [spawn, tended?, Tended.step]
  exact tended?_passing hfirst hspawn hstop

/-! ## No tick is passed by -/

/-- No tick is overdue. -/
def Settled (t : Timeline) : Prop := ∀ k ∈ t.tickers, isDue t.step k = false

theorem settled_setNow_iff {now : Nat} :
    (t.setNow now).Settled ↔ ∀ k ∈ t.tickers, isDue (now / grain) k = false := Iff.rfl

theorem grain_pos : 0 < grain := by decide

/-- A timer does not go off before its time. -/
theorem due_le_of_stepOf_le {due n : Nat} (h : stepOf due ≤ n) : due ≤ n * grain := by
  simp only [stepOf, grain] at *
  omega

/-- Of a loop that is due the time has come. -/
theorem due_le_of_isDue {k : Ticker} (h : isDue limit k = true) :
    stepOf k.due ≤ limit ∧ k.due ≤ limit * grain := by
  have hle : stepOf k.due ≤ limit := by
    simp only [isDue, Bool.and_eq_true, decide_eq_true_eq] at h
    exact h.2
  exact ⟨hle, due_le_of_stepOf_le hle⟩

/-- A step comes at its time or later. -/
theorem le_atStep (t : Timeline) (n : Nat) : n * grain ≤ t.atStep n := by
  unfold atStep
  split
  · next hle => exact (Nat.le_div_iff_mul_le grain_pos).1 hle
  · omega

/-- A step that has not passed is the present one when it comes. -/
theorem atStep_div {n : Nat} (h : t.step ≤ n) : t.atStep n / grain = n := by
  unfold atStep
  split
  · next hle => exact Nat.le_antisymm h hle
  · rw [Nat.mul_comm, Nat.mul_add_div grain_pos, Nat.div_eq_of_lt (Nat.mod_lt _ grain_pos),
      Nat.add_zero]

theorem stride_pos (l : PruneLoop) : 0 < stride l.period := by
  have hperiod := l.period_pos
  unfold stride
  split
  · exact hperiod
  · decide

/-- A timer that is set anew is set a stride ahead at least. -/
theorem add_stride_le_later {due now base : Nat} (hnow : due ≤ now) (hbase : due ≤ base)
    (period : Span) : due + stride period ≤ later now base period := by
  unfold later stride
  split <;> split <;> omega

/-- A tick leaves its loop its period. -/
theorem period_tick (l : PruneLoop) (s : Service) : (l.tick s).1.period = l.period := by
  unfold PruneLoop.tick
  split
  · rfl
  · split <;> rfl
  · rfl

/-- How many ticks of a loop there can be up to a step. -/
def ticksLeft (limit : Nat) (k : Ticker) : Nat :=
  if isDue limit k then (limit * grain - k.due) / stride k.loop.period + 1 else 0

/-- A tick that comes in time or late leaves fewer. -/
theorem ticksLeft_lt {k k' : Ticker} (hdue : isDue limit k = true)
    (hperiod : k'.loop.period = k.loop.period)
    (hstride : k.due + stride k.loop.period ≤ k'.due) : ticksLeft limit k' < ticksLeft limit k := by
  have hpos := stride_pos k.loop
  rw [ticksLeft, ticksLeft, if_pos hdue, hperiod]
  split
  · next hdue' =>
    have hle := (due_le_of_isDue hdue').2
    have hsub : limit * grain - k'.due + stride k.loop.period ≤ limit * grain - k.due := by omega
    have hdiv := Nat.div_le_div_right (c := stride k.loop.period) hsub
    rw [Nat.add_div_right _ hpos] at hdiv
    omega
  · exact Nat.succ_pos _

/-- To lower one of some numbers is to lower their sum. -/
theorem sum_map_set_lt {ts : List Ticker} {i : Nat} {k k' : Ticker} {f : Ticker → Nat}
    (hi : ts[i]? = some k) (h : f k' < f k) : ((ts.set i k').map f).sum < (ts.map f).sum := by
  induction ts generalizing i with
  | nil => cases hi
  | cons x ts ih =>
    cases i with
    | zero =>
      obtain rfl : x = k := Option.some.inj hi
      simpa using h
    | succ i => simpa using ih hi

/-- **A tick leaves fewer ticks** up to any step. -/
theorem ticksLeft_tickAt {i : Nat} {k : Ticker} (hi : t.tickers[i]? = some k)
    (hdue : isDue limit k = true) {now : Nat} (hnow : k.due ≤ now) (s : Service) :
    ((t.tickAt s i k now).1.tickers.map (ticksLeft limit)).sum
      < (t.tickers.map (ticksLeft limit)).sum := by
  refine sum_map_set_lt hi (ticksLeft_lt hdue (period_tick k.loop s) ?_)
  refine add_stride_le_later hnow ?_ k.loop.period
  split
  · exact hnow
  · exact Nat.le_refl _

/-- No tick comes before its time, be it at the end of a leap or at its own step. -/
theorem due_le_getD_atStep (t : Timeline) (hleap : ∀ now, leap = some now → limit * grain ≤ now)
    {k : Ticker} (hdue : isDue limit k = true) : k.due ≤ leap.getD (t.atStep (stepOf k.due)) := by
  cases leap with
  | none =>
    rw [Option.getD_none]
    have hdue' := due_le_of_stepOf_le (Nat.le_refl (stepOf k.due))
    exact hdue'.trans (t.le_atStep (stepOf k.due))
  | some now => exact (due_le_of_isDue hdue).2.trans (hleap now rfl)

/-- **Up to a step all ticks come** if as many are allowed as can be. -/
theorem isDue_ticksUntil {fuel : Nat} (hleap : ∀ now, leap = some now → limit * grain ≤ now)
    (hfuel : (t.tickers.map (ticksLeft limit)).sum ≤ fuel) (s : Service) :
    ∀ k ∈ (ticksUntil limit leap fuel t s).1.tickers, isDue limit k = false := by
  induction fuel generalizing t s with
  | zero =>
    intro k hk
    have hnone : ticksLeft limit k ≤ 0 :=
      (List.le_sum_of_mem (List.mem_map_of_mem hk)).trans hfuel
    by_contra hdue
    rw [ticksLeft, if_pos (Bool.eq_true_of_not_eq_false hdue)] at hnone
    exact Nat.not_succ_le_zero _ hnone
  | succ fuel ih =>
    rcases hnext : nextDue limit t.tickers with _ | ⟨i, k⟩
    · rw [ticksUntil_of_nextDue_eq_none hnext]
      exact of_nextDue_eq_none hnext
    · obtain ⟨hi, hdue⟩ := of_nextDue_eq_some hnext
      have hfewer := ticksLeft_tickAt hi hdue (t.due_le_getD_atStep hleap hdue) s
      rw [ticksUntil_of_nextDue hnext]
      generalize t.tickAt s i k _ = w at hfewer ⊢
      exact ih (Nat.le_of_lt_succ (hfewer.trans_le hfuel)) w.2

/-- The ticks counted beforehand are as many as there can be. -/
theorem sum_ticksLeft_le (limit : Nat) (ts : List Ticker) :
    (ts.map (ticksLeft limit)).sum ≤ ticksWithin limit ts := by
  induction ts with
  | nil => exact Nat.le_refl _
  | cons k ts ih =>
    have hk : ticksLeft limit k ≤ (limit * grain - k.due) / stride k.loop.period + 1 := by
      unfold ticksLeft
      split
      · exact Nat.le_refl _
      · exact Nat.zero_le _
    rw [List.map_cons, List.sum_cons, ticksWithin, List.foldr_cons]
    exact Nat.add_le_add hk ih

/-- A loop that is not alive has no tick. -/
theorem isDue_eq_false_of_imp {k k' : Ticker} (hdue : k'.due = k.due)
    (halive : k'.loop.isAlive = true → k.loop.isAlive = true) (h : isDue limit k = false) :
    isDue limit k' = false := by
  rw [Bool.eq_false_iff] at h ⊢
  simp only [isDue, hdue, Bool.and_eq_true, ne_eq] at h ⊢
  exact fun h' => h ⟨halive h'.1, h'.2⟩

/-- A timer is not set to a step that has passed. -/
theorem step_le_stepOf_later (t : Timeline) (d : Span) :
    t.step ≤ stepOf (later t.now t.now d) := by
  have hlater : t.now ≤ later t.now t.now d := by
    unfold later
    split <;> omega
  simp only [step, stepOf, grain]
  omega

/-- A timer with some time to go is set to a step to come. -/
theorem step_lt_stepOf_later (t : Timeline) {d : Span} (hd : 0 < d.toNanos) :
    t.step < stepOf (later t.now t.now d) := by
  have hlater : t.now < later t.now t.now d := by
    unfold later
    split
    · omega
    · exact Nat.lt_add_of_pos_right (by decide)
  simp only [step, stepOf, grain]
  omega

/-- A change of loops that brings none back to life leaves none overdue. -/
theorem Settled.change (h : t.Settled) {number : Nat} {f : Ticker → Ticker}
    (hdue : ∀ k ∈ t.tickers[number]?, (f k).due = k.due)
    (halive : ∀ k ∈ t.tickers[number]?, (f k).loop.isAlive = true → k.loop.isAlive = true) :
    (t.change number f).Settled := by
  intro k' hk'
  obtain ⟨i, hi⟩ := List.mem_iff_getElem?.1 hk'
  simp only [Timeline.change, List.getElem?_modify] at hi
  obtain ⟨k, hk, rfl⟩ := Option.map_eq_some_iff.1 hi
  have hold := h k (List.mem_of_getElem? hk)
  split
  · next heq =>
    subst heq
    exact isDue_eq_false_of_imp (hdue k hk) (halive k hk) hold
  · exact hold

/-- **One step** on a line of time leaves no tick overdue. -/
theorem Settled.next {w : Timeline × Service} (h : w.1.Settled) (a : TimelineStep) :
    (Timeline.next w a).1.Settled := by
  obtain ⟨t, s⟩ := w
  cases a with
  | spawn l =>
    rw [next_spawn]
    intro k hk
    rcases List.mem_append.1 hk with hold | hnew
    · exact h k hold
    · obtain rfl := List.mem_singleton.1 hnew
      have hlt := t.step_lt_stepOf_later l.period_pos
      simp only [spawn, isDue, Bool.and_eq_false_iff]
      exact .inr (decide_eq_false (Nat.not_le.2 hlt))
  | sleep d =>
    have hdue : ∀ k ∈ (ticksUntil (stepOf (later t.now t.now d)) none
        (ticksWithin (stepOf (later t.now t.now d)) t.tickers) t s).1.tickers,
        isDue (stepOf (later t.now t.now d)) k = false :=
      isDue_ticksUntil (by simp) (sum_ticksLeft_le _ t.tickers) s
    rw [next_sleep, sleep]
    refine settled_setNow_iff.2 ?_
    rwa [atStep_div (t.step_le_stepOf_later d)]
  | jump d =>
    rw [next_jump]
    by_cases hend : t.now + d.toNanos < endOfTime
    · have hdue : ∀ k ∈ (ticksUntil ((t.now + d.toNanos) / grain) (some (t.now + d.toNanos))
          (ticksWithin ((t.now + d.toNanos) / grain) t.tickers) t s).1.tickers,
          isDue ((t.now + d.toNanos) / grain) k = false :=
        isDue_ticksUntil (fun now hnow => Option.some.inj hnow ▸ Nat.div_mul_le_self _ _)
          (sum_ticksLeft_le _ t.tickers) s
      rw [leap, if_pos hend]
      exact settled_setNow_iff.2 hdue
    · rw [leap, if_neg hend]
      exact h
  | stop number =>
    cases hheld : t.held? number with
    | some k =>
      have hk : t.tickers[number]? = some k := (Option.filter_eq_some_iff.1 hheld).1
      rw [next_stop_of_held? hheld]
      refine Settled.change h (fun _ _ => rfl) fun k' hk' halive => ?_
      obtain rfl : k = k' := Option.some.inj (hk.symm.trans hk')
      exact PruneLoop.isAlive_of_stop halive
    | none => rwa [next_stop_of_not_held? hheld]
  | release number =>
    rw [next_release]
    exact h.change (fun _ _ => rfl) fun _ _ halive => halive
  | elsewhere c =>
    rw [next_elsewhere]
    exact h

/-- **At no time is a tick overdue**, whatever has passed on a line of time. -/
theorem settled_passing (s : Service) (events : List TimelineStep) :
    (passing (start, s) events).1.Settled := by
  suffices hall : ∀ w : Timeline × Service, w.1.Settled → (passing w events).1.Settled from
    hall (start, s) fun k hk => nomatch hk
  intro w hw
  induction events generalizing w with
  | nil => exact hw
  | cons a events ih => exact ih _ (hw.next a)

end Timeline

end Herald

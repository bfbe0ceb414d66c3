import Herald.Proofs.Dispatch.Undisturbed
import Herald.Proofs.Rate.Faults
import Mathlib.Data.Fintype.Card
/-!
# A crowd at a standing clock

Any number of callers check one domain while the clock stands still. The first
of them to reach the global gate is the only one that can get past it: a pass
shuts the gate at the moment it is made, since no rate asks for a spacing of no
length. Everybody else is turned away, and being turned away moves nothing but
a counter (`after_of_isShut`). So it makes no difference where in between the one
that got past comes to the gate of the domain (`after_of_letThrough`), and the
crowd leaves behind what a single check leaves, with the others counted.
-/

namespace Herald

/-! ## Shut gates -/

namespace GlobalGate

/-- Whether the gate is shut at a moment: it has a window, and not an open
one. -/
def isShut (g : GlobalGate) (now : Moment) : Bool := g.window.any fun w => !w.isOpen now g.spacing

/-- A check is let through unless the gate is shut. -/
theorem check_fst (g : GlobalGate) (now : Moment) : (g.check now).1 = !g.isShut now := by
  rw [Bool.eq_iff_iff, check_admitted_iff, isShut]
  cases g.window <;> simp

/-- **A pass shuts the gate** for the moment it is made at. -/
theorem isShut_openedAt (g : GlobalGate) (now : Moment) :
    (g.setWindow (some (.openedAt now))).isShut now = true := by
  simp [isShut, RateWindow.isOpen_openedAt g.spacing_pos]

/-- A check leaves the gate shut for its moment, whatever it was answered. -/
theorem isShut_check (g : GlobalGate) (now : Moment) : (g.check now).2.isShut now = true := by
  cases hpass : (g.check now).1 with
  | false =>
    rw [check_denied hpass]
    simpa [hpass] using g.check_fst now
  | true =>
    rw [check_admitted hpass]
    exact g.isShut_openedAt now

end GlobalGate

namespace DomainGate

/-- Whether the gate is shut for a domain at a moment: the domain has a window,
and not an open one. -/
def isShut (g : DomainGate) (x : String) (now : Moment) : Bool :=
  (g.window x).any fun w => !w.isOpen now g.spacing

/-- A domain is admitted unless the gate is shut for it. -/
theorem check_fst (g : DomainGate) (x : String) (now : Moment) :
    (g.check x now).1 = !g.isShut x now := by
  rw [Bool.eq_iff_iff, check_admitted_iff, isShut]
  cases g.window x <;> simp

/-- **A check leaves the gate shut** for its domain and its moment, whatever it
was answered. -/
theorem isShut_check (g : DomainGate) (x : String) (now : Moment) :
    (g.check x now).2.isShut x now = true := by
  cases hadm : (g.check x now).1 with
  | false =>
    rw [check_denied hadm]
    simpa [hadm] using g.check_fst x now
  | true =>
    have hspacing : (g.check x now).2.spacing = g.spacing := rfl
    simp [isShut, window_check_admitted hadm, hspacing,
      RateWindow.isOpen_openedAt g.spacing_pos]

end DomainGate

namespace Dispatcher

variable {d : Dispatcher}

/-- A dispatcher that has turned away some more checks at the global gate. -/
def turnAway (d : Dispatcher) (n : Nat) : Dispatcher :=
  { d with counters := { d.counters with
      blockedByGlobal := d.counters.blockedByGlobal + .ofNat n } }

@[simp] theorem globalGate_turnAway (d : Dispatcher) (n : Nat) :
    (d.turnAway n).globalGate = d.globalGate := rfl

@[simp] theorem domainGate_turnAway (d : Dispatcher) (n : Nat) :
    (d.turnAway n).domainGate = d.domainGate := rfl

@[simp] theorem turnAway_zero (d : Dispatcher) : d.turnAway 0 = d := by simp [turnAway]

@[simp] theorem turnAway_turnAway (d : Dispatcher) (m n : Nat) :
    (d.turnAway m).turnAway n = d.turnAway (m + n) := by
  simp [turnAway, UInt64.add_assoc, UInt64.ofNat_add]

/-- The gate of a domain does not see how many were turned away. -/
theorem passDomain_turnAway (d : Dispatcher) (n : Nat) (x : String) (now : Moment) :
    (d.turnAway n).passDomain x now
      = ((d.passDomain x now).1, (d.passDomain x now).2.turnAway n) := by
  by_cases hadm : (d.domainGate.check x now).1 = true <;>
    simp [passDomain, noteDomain, turnAway, hadm]

/-- A shut gate turns a check away. -/
theorem passGlobal_of_isShut (h : d.globalGate.isShut now = true) :
    d.passGlobal now = (false, d.turnAway 1) := by
  have hcheck : (d.globalGate.check now).1 = false := by rw [GlobalGate.check_fst, h]; rfl
  simp [passGlobal, noteGlobal, hcheck, GlobalGate.check_denied hcheck, turnAway]

/-- A gate that is not shut lets it pass, and is shut by that. -/
theorem passGlobal_of_not_isShut (h : d.globalGate.isShut now = false) :
    d.passGlobal now
      = (true, { d with globalGate := d.globalGate.setWindow (some (.openedAt now)) }) := by
  have hcheck : (d.globalGate.check now).1 = true := by rw [GlobalGate.check_fst, h]; rfl
  simp [passGlobal, noteGlobal, hcheck, GlobalGate.check_admitted hcheck]

/-- A check at a shut gate is turned away. -/
theorem checkAt_of_isShut (h : d.globalGate.isShut now = true) (x : String) :
    d.checkAt x now = (.blocked .global, d.turnAway 1) := by
  rw [checkAt, passGlobal_of_isShut h]

/-- At an open one it is the gate of the domain that answers. -/
theorem checkAt_of_not_isShut (h : d.globalGate.isShut now = false) (x : String) :
    (d.checkAt x now).1 = if d.domainGate.isShut x now then .blocked .domain else .admitted := by
  rw [checkAt, passGlobal_of_not_isShut h]
  cases hshut : d.domainGate.isShut x now <;>
    simp [passDomain, noteDomain, DomainGate.check_fst, hshut]

end Dispatcher

/-! ## What a crowd does -/

namespace SharedStep

variable {ι : Type}

/-- The steps of checks of a domain. -/
inductive IsCheckOf (x : String) : SharedStep ι → Prop
  /-- A check of the domain begins. -/
  | askGlobal (i : ι) : IsCheckOf x (.askGlobal i x)
  /-- A check goes on. -/
  | askDomain (i : ι) : IsCheckOf x (.askDomain i)

/-- The caller whose check a step begins. -/
def beginner? : SharedStep ι → Option ι
  | .askGlobal i _ => some i
  | _ => none

/-- The callers that begin checks, in order. -/
def beginners (steps : List (SharedStep ι)) : List ι := steps.filterMap beginner?

@[simp] theorem beginners_askGlobal (i : ι) (x : String) (steps : List (SharedStep ι)) :
    beginners (.askGlobal i x :: steps) = i :: beginners steps := rfl

@[simp] theorem beginners_askDomain (i : ι) (steps : List (SharedStep ι)) :
    beginners (.askDomain i :: steps) = beginners steps := rfl

/-- **A crowd at a domain**: every caller begins one check of it, and nobody does
anything but check. -/
structure IsCrowd (x : String) (steps : List (SharedStep ι)) : Prop where
  checks : ∀ a ∈ steps, a.IsCheckOf x
  once : (beginners steps).Nodup
  everybody : ∀ i, i ∈ beginners steps

end SharedStep

namespace SharedDispatcher

open SharedStep

variable {ι : Type} [DecidableEq ι] {w : SharedDispatcher ι} {x : String} {now : Moment} {i : ι}
  {others : List ι} {steps : List (SharedStep ι)}

/-- The check a step ends, if it ends one: whose it is, and how it is answered. -/
def answer? (w : SharedDispatcher ι) : SharedStep ι → Option (ι × Admission)
  | .askGlobal i _ =>
    match w.caller i, w.clock.read.1 with
    | .idle, .ok now => if (w.dispatcher.passGlobal now).1 then none else some (i, .blocked .global)
    | _, _ => none
  | .askDomain i =>
    match w.caller i, w.clock.read.1 with
    | .letThrough x, .ok now => some (i, (w.dispatcher.passDomain x now).1)
    | _, _ => none
  | _ => none

/-- The answers that callers get in a run, oldest first. -/
def answers (w : SharedDispatcher ι) : List (SharedStep ι) → List (ι × Admission)
  | [] => []
  | a :: steps => (w.answer? a).toList ++ (w.step a).answers steps

/-- **A check that nobody comes into is answered like a check.** -/
theorem answers_alone (hi : w.caller i = .idle) (x : String) :
    w.answers [.askGlobal i x, .askDomain i]
      = match (w.dispatcher.check x w.clock).1 with
        | .ok a => [(i, a)]
        | .error _ => [] := by
  simp only [answers, answer?, step, hi, askGlobal, Dispatcher.askGlobal_eq, Dispatcher.check_eq]
  rcases hr : w.clock.read with ⟨f | now, c⟩
  · simp [hi]
  · obtain ⟨rfl, rfl, hf, hb⟩ := Clock.read_ok hr
    rcases hp : w.dispatcher.passGlobal w.clock.time with ⟨_ | _, d⟩
    · simp [hi, Dispatcher.checkAt, hp]
    · simp [place, Dispatcher.checkAt, hp, hr]

/-- Everybody is turned away at the global gate. -/
def turnedAway (callers : List ι) : List (ι × Admission) :=
  callers.map fun i => (i, .blocked .global)

omit [DecidableEq ι] in
@[simp] theorem map_fst_turnedAway (callers : List ι) :
    (turnedAway callers).map Prod.fst = callers := by
  simp [turnedAway, Function.comp_def]

/-! ### One step -/

/-- A caller at a shut global gate is turned away. -/
theorem step_askGlobal_of_isShut (hclock : w.clock.read = (.ok now, w.clock))
    (hi : w.caller i = .idle) (hshut : w.dispatcher.globalGate.isShut now = true) (x : String) :
    w.answer? (.askGlobal i x) = some (i, .blocked .global)
      ∧ w.step (.askGlobal i x) = { w with dispatcher := w.dispatcher.turnAway 1 } := by
  have hpass := Dispatcher.passGlobal_of_isShut hshut
  constructor
  · simp [answer?, hi, hclock, hpass]
  · simp [step, hi, askGlobal, Dispatcher.askGlobal_eq, hclock, hpass]

/-- At an open one it is let through, and the gate is shut behind it. -/
theorem step_askGlobal_of_not_isShut (hclock : w.clock.read = (.ok now, w.clock))
    (hi : w.caller i = .idle) (hopen : w.dispatcher.globalGate.isShut now = false) (x : String) :
    w.answer? (.askGlobal i x) = none
      ∧ w.step (.askGlobal i x) =
        { w with
          dispatcher := { w.dispatcher with
            globalGate := w.dispatcher.globalGate.setWindow (some (.openedAt now)) }
          caller := w.place i (.letThrough x)
          passes := w.passes ++ [now] } := by
  have hpass := Dispatcher.passGlobal_of_not_isShut hopen
  have htime : w.clock.time = now := (Clock.read_ok hclock).2.1.symm
  constructor
  · simp [answer?, hi, hclock, hpass]
  · simp [step, hi, askGlobal, Dispatcher.askGlobal_eq, hclock, hpass, htime]

/-- A caller in no check has nothing to ask a gate of a domain. -/
theorem step_askDomain_of_idle (hi : w.caller i = .idle) :
    w.answer? (.askDomain i) = none ∧ w.step (.askDomain i) = w := by
  constructor
  · simp [answer?, hi]
  · simp [step, hi]

/-- A caller behind the global gate gets its answer from the gate of the domain. -/
theorem step_askDomain_of_letThrough (hclock : w.clock.read = (.ok now, w.clock))
    (hi : w.caller i = .letThrough x) :
    w.answer? (.askDomain i) = some (i, (w.dispatcher.passDomain x now).1)
      ∧ (w.step (.askDomain i)).dispatcher = (w.dispatcher.passDomain x now).2
      ∧ (w.step (.askDomain i)).clock = w.clock
      ∧ (w.step (.askDomain i)).caller = w.place i .idle := by
  constructor
  · simp [answer?, hi, hclock]
  · simp [step, hi, askDomain, Dispatcher.askDomain_eq, hclock]

/-! ### Many steps -/

/-- **At a shut gate everybody is turned away.** -/
theorem after_of_isShut (hclock : w.clock.read = (.ok now, w.clock))
    (hidle : ∀ j, w.caller j = .idle) (hshut : w.dispatcher.globalGate.isShut now = true)
    (hsteps : ∀ a ∈ steps, a.IsCheckOf x) :
    (w.after steps).dispatcher = w.dispatcher.turnAway (beginners steps).length
      ∧ w.answers steps = turnedAway (beginners steps) := by
  induction steps generalizing w with
  | nil => exact ⟨(Dispatcher.turnAway_zero _).symm, rfl⟩
  | cons a steps ih =>
    obtain ⟨ha, hrest⟩ := List.forall_mem_cons.1 hsteps
    cases ha with
    | askGlobal j =>
      obtain ⟨hanswer, hstep⟩ := step_askGlobal_of_isShut hclock (hidle j) hshut x
      obtain ⟨hdispatcher, hanswers⟩ :=
        ih (w := { w with dispatcher := w.dispatcher.turnAway 1 }) hclock hidle hshut hrest
      rw [after_cons, answers, hstep, hanswer, hdispatcher, hanswers]
      simp [turnedAway, Nat.add_comm]
    | askDomain j =>
      obtain ⟨hanswer, hstep⟩ := step_askDomain_of_idle (hidle j)
      rw [after_cons, answers, hstep, hanswer]
      exact ih hclock hidle hshut hrest

/-- **Whenever the one that got past comes to the gate of the domain**, it is
answered there what it would have been at once, and everybody else is turned
away. -/
theorem after_of_letThrough (hclock : w.clock.read = (.ok now, w.clock))
    (hi : w.caller i = .letThrough x) (hidle : ∀ j, j ≠ i → w.caller j = .idle)
    (hshut : w.dispatcher.globalGate.isShut now = true)
    (hsteps : ∀ a ∈ steps, a.IsCheckOf x) (hbegun : i ∉ beginners steps)
    (hend : (w.after steps).caller i = .idle) :
    (w.after steps).dispatcher
        = (w.dispatcher.passDomain x now).2.turnAway (beginners steps).length
      ∧ (w.answers steps).Perm
        ((i, (w.dispatcher.passDomain x now).1) :: turnedAway (beginners steps)) := by
  induction steps generalizing w with
  | nil => exact absurd (hi.symm.trans hend) (by simp)
  | cons a steps ih =>
    obtain ⟨ha, hrest⟩ := List.forall_mem_cons.1 hsteps
    rw [after_cons] at hend
    cases ha with
    | askGlobal j =>
      rw [beginners_askGlobal, List.mem_cons, not_or] at hbegun
      obtain ⟨hanswer, hstep⟩ :=
        step_askGlobal_of_isShut hclock (hidle j (Ne.symm hbegun.1)) hshut x
      rw [hstep] at hend
      obtain ⟨hdispatcher, hanswers⟩ := ih (w := { w with dispatcher := w.dispatcher.turnAway 1 })
        hclock hi hidle hshut hrest hbegun.2 hend
      rw [Dispatcher.passDomain_turnAway] at hdispatcher hanswers
      rw [after_cons, answers, hstep, hanswer, hdispatcher]
      refine ⟨by simp [Nat.add_comm], ?_⟩
      exact (hanswers.cons _).trans (.swap _ _ _)
    | askDomain j =>
      by_cases hj : j = i
      · -- from here on nobody is behind the gate any more
        subst hj
        obtain ⟨hanswer, hdispatcher, hclock', hcaller⟩ := step_askDomain_of_letThrough hclock hi
        have hgate : (w.step (.askDomain j)).dispatcher.globalGate = w.dispatcher.globalGate := by
          rw [hdispatcher, Dispatcher.globalGate_passDomain]
        obtain ⟨hafter, hanswers⟩ := after_of_isShut (w := w.step (.askDomain j))
          (by rw [hclock']; exact hclock)
          (fun k => by rw [hcaller]; by_cases hk : k = j <;> simp [place, hk, hidle])
          (by rw [hgate]; exact hshut) hrest
        rw [after_cons, answers, hafter, hanswers, hanswer, hdispatcher]
        exact ⟨rfl, .refl _⟩
      · obtain ⟨hanswer, hstep⟩ := step_askDomain_of_idle (hidle j hj)
        rw [hstep] at hend
        rw [after_cons, answers, hstep, hanswer]
        exact ih hclock hi hidle hshut hrest hbegun hend

/-- **Of a crowd at an open gate the first gets past**, and the gate is shut to
everybody else. -/
theorem after_of_not_isShut (hclock : w.clock.read = (.ok now, w.clock))
    (hidle : ∀ j, w.caller j = .idle) (hopen : w.dispatcher.globalGate.isShut now = false)
    (hsteps : ∀ a ∈ steps, a.IsCheckOf x) (honce : (i :: others).Nodup)
    (hbegun : beginners steps = i :: others) (hend : ∀ j, (w.after steps).caller j = .idle) :
    (w.after steps).dispatcher = (w.dispatcher.checkAt x now).2.turnAway others.length
      ∧ (w.answers steps).Perm ((i, (w.dispatcher.checkAt x now).1) :: turnedAway others) := by
  induction steps with
  | nil => nomatch hbegun
  | cons a steps ih =>
    obtain ⟨ha, hrest⟩ := List.forall_mem_cons.1 hsteps
    cases ha with
    | askGlobal j =>
      obtain ⟨rfl, rfl⟩ := List.cons.inj hbegun
      obtain ⟨hanswer, hstep⟩ := step_askGlobal_of_not_isShut hclock (hidle j) hopen x
      have hcheck : w.dispatcher.checkAt x now = Dispatcher.passDomain
          { w.dispatcher with
            globalGate := w.dispatcher.globalGate.setWindow (some (.openedAt now)) }
          x now := by
        rw [Dispatcher.checkAt, Dispatcher.passGlobal_of_not_isShut hopen]
      have hend' := hend j
      rw [after_cons, hstep] at hend'
      rw [after_cons, answers, hstep, hanswer, hcheck]
      exact after_of_letThrough hclock (by simp [place])
        (fun k hk => by simp [place, hk, hidle]) (GlobalGate.isShut_openedAt _ _) hrest
        (List.nodup_cons.1 honce).1 hend'
    | askDomain j =>
      obtain ⟨hanswer, hstep⟩ := step_askDomain_of_idle (hidle j)
      have hend' : ∀ k, (w.after steps).caller k = .idle := fun k => by
        rw [← hend k, after_cons, hstep]
      rw [after_cons, answers, hstep, hanswer]
      exact ih hrest hbegun hend'

/-- **A crowd does what its first caller does alone**, and the others are turned
away. -/
theorem after_crowd (hclock : w.clock.read = (.ok now, w.clock))
    (hidle : ∀ j, w.caller j = .idle) (hcrowd : IsCrowd x steps)
    (hbegun : beginners steps = i :: others) (hend : ∀ j, (w.after steps).caller j = .idle) :
    (w.after steps).dispatcher = (w.dispatcher.checkAt x now).2.turnAway others.length
      ∧ (w.answers steps).Perm ((i, (w.dispatcher.checkAt x now).1) :: turnedAway others) := by
  cases hshut : w.dispatcher.globalGate.isShut now with
  | true =>
    obtain ⟨hdispatcher, hanswers⟩ := after_of_isShut hclock hidle hshut hcrowd.checks
    rw [hdispatcher, hanswers, hbegun, Dispatcher.checkAt_of_isShut hshut]
    exact ⟨by simp [Nat.add_comm], .refl _⟩
  | false =>
    exact after_of_not_isShut hclock hidle hshut hcrowd.checks (hbegun ▸ hcrowd.once) hbegun hend

omit [DecidableEq ι] in
/-- The callers of a crowd are all there are, each once. -/
theorem perm_beginners [Fintype ι] (h : IsCrowd x steps) :
    (beginners steps).Perm Finset.univ.toList :=
  (List.perm_ext_iff_of_nodup h.once (Finset.nodup_toList _)).2 fun i => by simp [h.everybody i]

end SharedDispatcher

/-! ## Gates on their own -/

namespace Clocked

variable {γ ι α : Type} [ClockGate γ ι α] {heal : γ → γ} {g : γ} {c : Clock} {now : Moment}
  {i : ι} {a : α}

/-- A call on a clock that stands still is a call at its moment. -/
theorem step_call_of_still (hgate : ClockGate.Recovers heal) (hclock : c.read = (.ok now, c))
    (g : γ) (i : ι) :
    (mk g c).step (.call i) = (.answer (Gate.call g now i).1, mk (Gate.call g now i).2 c) := by
  simp only [step, hgate.callBy_of_ok hclock]

/-- Calls that leave the gate as it is are all answered the same. -/
theorem answers_replicate (hgate : ClockGate.Recovers heal) (hclock : c.read = (.ok now, c))
    (h : Gate.call g now i = (a, g)) (n : Nat) :
    (mk g c).answers (List.replicate n (.call i)) = List.replicate n (.answer a) := by
  induction n with
  | zero => rfl
  | succ n ih =>
    rw [List.replicate_succ, answers_cons, step_call_of_still hgate hclock, h, ih,
      List.replicate_succ]

/-- **The first call settles what the others are answered**, where a second one
finds the gate shut. -/
theorem answers_replicate_succ (hgate : ClockGate.Recovers heal) (hclock : c.read = (.ok now, c))
    (h : Gate.call (Gate.call g now i).2 now i = (a, (Gate.call g now i).2)) (n : Nat) :
    (mk g c).answers (List.replicate (n + 1) (.call i))
      = .answer (Gate.call g now i).1 :: List.replicate n (.answer a) := by
  rw [List.replicate_succ, answers_cons, step_call_of_still hgate hclock,
    answers_replicate hgate hclock h]

end Clocked

/-- A crowd at the gate of a domain. -/
theorem DomainGate.answers_crowd (x : String) (now : Moment) (g : DomainGate) (n : Nat) :
    (Clocked.mk g ⟨now, false, false⟩).answers (List.replicate (n + 1) (.call (.check x)))
      = .answer (.checked (!g.isShut x now)) :: List.replicate n (.answer (.checked false)) := by
  have hdenied : ((g.check x now).2.check x now).1 = false := by
    rw [check_fst, isShut_check, Bool.not_true]
  have hclock : Clock.read ⟨now, false, false⟩ = (.ok now, ⟨now, false, false⟩) := rfl
  rw [← check_fst]
  refine Clocked.answers_replicate_succ DomainGate.recovers hclock (Prod.ext ?_ ?_) n
  · exact congrArg DomainAnswer.checked hdenied
  · exact check_denied hdenied

/-- A crowd at the global gate. -/
theorem GlobalGate.answers_crowd (now : Moment) (g : GlobalGate) (n : Nat) :
    (Clocked.mk g ⟨now, false, false⟩).answers (List.replicate (n + 1) (.call ()))
      = .answer (!g.isShut now) :: List.replicate n (.answer false) := by
  have hdenied : ((g.check now).2.check now).1 = false := by
    rw [check_fst, isShut_check, Bool.not_true]
  have hclock : Clock.read ⟨now, false, false⟩ = (.ok now, ⟨now, false, false⟩) := rfl
  rw [← check_fst]
  exact Clocked.answers_replicate_succ GlobalGate.recovers hclock
    (Prod.ext hdenied (check_denied hdenied)) n

/-- **One of a crowd passes.** Let every caller check one domain while the clock
stands still, from whatever state of the dispatcher and with the two steps of each
check coming between those of the others in whatever order. Everybody gets one
answer. If the global gate is shut, all are blocked by it and no window moves. If it
is not, one caller gets past it, is admitted or blocked by the gate of the domain as
that is open or shut, and all others are blocked by the global gate. In any order the
dispatcher is left as one check leaves it, with the others counted as blocked. Calls
of a gate on its own, each of them one step, are answered the same way. -/
theorem one_of_a_crowd_passes {ι : Type} [Fintype ι] [Nonempty ι] [DecidableEq ι]
    (d : Dispatcher) (now : Moment) (x : String) {steps : List (SharedStep ι)}
    (hcrowd : SharedStep.IsCrowd x steps)
    (hend : ∀ i, ((SharedDispatcher.begin d ⟨now, false, false⟩).after steps).caller i = .idle) :
    let w₀ : SharedDispatcher ι := .begin d ⟨now, false, false⟩
    let w := w₀.after steps
    let given := w₀.answers steps
    (given.map Prod.fst).Perm Finset.univ.toList ∧
      (d.globalGate.isShut now = true → (∀ p ∈ given, p.2 = .blocked .global) ∧
        w.dispatcher.globalGate = d.globalGate ∧ w.dispatcher.domainGate = d.domainGate) ∧
      (d.globalGate.isShut now = false →
        ∃ i, (i, if d.domainGate.isShut x now then .blocked .domain else .admitted) ∈ given ∧
          ∀ p ∈ given, p.1 ≠ i → p.2 = .blocked .global) ∧
      w.dispatcher = (d.checkAt x now).2.turnAway (Fintype.card ι - 1) ∧
      (∀ (g : DomainGate) (n : Nat),
        (Clocked.mk g ⟨now, false, false⟩).answers (List.replicate (n + 1) (.call (.check x)))
          = .answer (.checked (!g.isShut x now))
            :: List.replicate n (.answer (.checked false))) ∧
      ∀ (g : GlobalGate) (n : Nat),
        (Clocked.mk g ⟨now, false, false⟩).answers (List.replicate (n + 1) (.call ()))
          = .answer (!g.isShut now) :: List.replicate n (.answer false) := by
  intro w₀ w given
  have hcallers := SharedDispatcher.perm_beginners hcrowd
  have hcard : (SharedStep.beginners steps).length = Fintype.card ι := by
    rw [hcallers.length_eq, Finset.length_toList, Finset.card_univ]
  -- there is a first caller, for there are callers
  obtain ⟨first, others, hbegun⟩ : ∃ i others, SharedStep.beginners steps = i :: others :=
    List.exists_cons_of_length_pos (hcard ▸ Fintype.card_pos)
  obtain ⟨hdispatcher, hgiven⟩ :=
    SharedDispatcher.after_crowd (w := w₀) rfl (fun _ => rfl) hcrowd hbegun hend
  -- everybody but the first was turned away
  have hothers : ∀ p ∈ given, p = (first, (d.checkAt x now).1) ∨ p.2 = .blocked .global := by
    intro p hp
    rcases List.mem_cons.1 (hgiven.subset hp) with rfl | hp
    · exact .inl rfl
    · obtain ⟨i, -, rfl⟩ := List.mem_map.1 hp
      exact .inr rfl
  refine ⟨?_, fun hshut => ⟨fun p hp => ?_, ?_, ?_⟩, fun hopen => ⟨first, ?_, fun p hp hne => ?_⟩,
    ?_, DomainGate.answers_crowd x now, GlobalGate.answers_crowd now⟩
  · have hmap : (given.map Prod.fst).Perm (SharedStep.beginners steps) := by
      rw [hbegun]
      simpa using hgiven.map Prod.fst
    exact hmap.trans hcallers
  · rcases hothers p hp with rfl | hp
    · rw [Dispatcher.checkAt_of_isShut hshut]
    · exact hp
  · rw [hdispatcher]
    simp [w₀, SharedDispatcher.begin, Dispatcher.checkAt_of_isShut hshut]
  · rw [hdispatcher]
    simp [w₀, SharedDispatcher.begin, Dispatcher.checkAt_of_isShut hshut]
  · rw [← Dispatcher.checkAt_of_not_isShut hopen]
    exact hgiven.symm.subset List.mem_cons_self
  · rcases hothers p hp with rfl | hp
    · exact absurd rfl hne
    · exact hp
  · rw [hbegun, List.length_cons] at hcard
    rw [hdispatcher, ← hcard, Nat.add_sub_cancel]
    rfl

/-- Three callers check a domain that was admitted a minute ago: the one that gets past
the global gate is blocked by the gate of the domain, behind a step of each of the
others. -/
theorem one_of_a_crowd_passes_to_a_shut_gate :
    let at60 : Moment := ⟨60, 0, by decide, by decide⟩
    let d := ((Dispatcher.ofSettings .default "" "").checkAt "a" .start).2
    let steps : List (SharedStep (Fin 3)) :=
      [.askGlobal 1 "a", .askGlobal 2 "a", .askGlobal 0 "a", .askDomain 1]
    let w₀ : SharedDispatcher (Fin 3) := .begin d ⟨at60, false, false⟩
    w₀.answers steps = [(2, .blocked .global), (0, .blocked .global), (1, .blocked .domain)] ∧
      (w₀.after steps).dispatcher = (d.checkAt "a" at60).2.turnAway 2 := by
  intro at60 d steps w₀
  have hcrowd : SharedStep.IsCrowd "a" steps :=
    { checks := by
        simp only [steps, List.forall_mem_cons]
        exact ⟨.askGlobal 1, .askGlobal 2, .askGlobal 0, .askDomain 1, by simp⟩
      once := by decide
      everybody := by decide }
  obtain ⟨-, -, -, hdispatcher, -⟩ := one_of_a_crowd_passes d at60 "a" hcrowd (by decide)
  exact ⟨by decide, hdispatcher⟩

end Herald

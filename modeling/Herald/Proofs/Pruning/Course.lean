import Herald.Proofs.Delivery.Reports
import Herald.Proofs.Dispatch.Faults
import Herald.Proofs.Dispatch.Journal
import Herald.Pruning.Loop
/-!
# The course of a periodic pruning

A service and a loop that prunes it, taking steps in any order: the loop's timer
ticks, the service is called from elsewhere, the holder of the loop's handle asks
it to stop, and the loop takes that up. `commands` writes down what the service is
told in a course of such steps, with a prune for every tick but the first. Until
something ends the loop the service goes through just these commands
(`going_after`). What can end it are a request that is taken up and a prune that
gets no reading (`Ending`), and from then on the service is told only what comes
from elsewhere (`after_of_not_isAlive`).
-/

namespace Herald

/-- A step of a service or of the loop that prunes it. -/
inductive LoopStep where
  /-- The timer of the loop ticks. -/
  | tick
  /-- The holder of the handle asks the loop to stop. -/
  | requestStop
  /-- The loop takes the request up, if there is one. -/
  | takeStop
  /-- The service is called from elsewhere. -/
  | elsewhere (c : Command)

namespace LoopStep

/-- What the service is told by a step if the loop is running. -/
def pass? : LoopStep → Option Command
  | tick => some .prune
  | elsewhere c => some c
  | _ => none

/-- What the service is told by a step if the loop is not running. -/
def foreign? : LoopStep → Option Command
  | elsewhere c => some c
  | _ => none

/-- **What the service is told in a course of steps**: what comes from elsewhere,
and a prune at each tick but the first, which starts the loop. -/
def commands : List LoopStep → List Command
  | [] => []
  | tick :: steps => steps.filterMap pass?
  | a :: steps => (foreign? a).toList ++ commands steps

/-- Before the first tick a step adds what comes from elsewhere. -/
theorem commands_append_of_notMem {xs : List LoopStep} (h : tick ∉ xs) (ys : List LoopStep) :
    commands (xs ++ ys) = commands xs ++ commands ys := by
  induction xs with
  | nil => rfl
  | cons a xs ih =>
    have hrest := ih fun hmem => h (List.mem_cons_of_mem a hmem)
    cases a with
    | tick => simp at h
    | _ => simp [commands, hrest]

/-- After it a tick adds a prune. -/
theorem commands_append_of_mem {xs : List LoopStep} (h : tick ∈ xs) (ys : List LoopStep) :
    commands (xs ++ ys) = commands xs ++ ys.filterMap pass? := by
  induction xs with
  | nil => cases h
  | cons a xs ih =>
    cases a with
    | tick => simp [commands]
    | _ => simp [commands, ih (by simpa using h)]

/-- What is no tick adds the same before it and after it. -/
theorem commands_concat {a : LoopStep} (ha : a ≠ tick) (xs : List LoopStep) :
    commands (xs ++ [a]) = commands xs ++ (foreign? a).toList := by
  by_cases h : tick ∈ xs
  · rw [commands_append_of_mem h]
    cases a <;> first | exact absurd rfl ha | rfl
  · rw [commands_append_of_notMem h]
    cases a <;> first | exact absurd rfl ha | rfl

end LoopStep

/-- The line of the stopped loop is that of no other event. -/
theorem LogEvent.reads_pruningStopped (e : LogEvent) :
    e.reads .debug "notification cleanup stopped" = true ↔ e = .pruningStopped := by
  cases e <;> simp [reads, level, message]

/-- **A tick of a running loop** is a prune of the service, and one without a
reading is the end of the loop. -/
theorem PruneLoop.tick_of_running {l : PruneLoop} (h : l.phase = .running) (s : Service) :
    l.tick s = (match s.clock.read with
      | (.ok _, _) => l
      | (.error f, _) => { l with phase := .dead f }, (s.step .prune).2) := by
  simp only [PruneLoop.tick, h, Service.step_prune_snd, Service.prune, Dispatcher.prune_eq]
  rcases s.clock.read with ⟨f | now, k⟩ <;> rfl

/-- A service with a loop that prunes it. -/
structure Tended where
  loop : PruneLoop
  service : Service

namespace Tended

variable {m : Tended} {s s' : Service} {steps before rest : List LoopStep} {a : LoopStep}
  {phase : Phase}

/-- **One step.** -/
def step (m : Tended) : LoopStep → Tended
  | .tick => ⟨(m.loop.tick m.service).1, (m.loop.tick m.service).2⟩
  | .requestStop => ⟨m.loop.requestStop, m.service⟩
  | .takeStop => ⟨(m.loop.takeStop m.service).1, (m.loop.takeStop m.service).2⟩
  | .elsewhere c => ⟨m.loop, (m.service.step c).2⟩

/-- A course of steps. -/
def after (m : Tended) (steps : List LoopStep) : Tended := steps.foldl step m

/-- How often the end of the loop was reported. -/
def stopReports (m : Tended) : Nat :=
  LogEvent.lines .debug "notification cleanup stopped" m.service.log

/-- What the shutdown of the loop's handle has returned. It waits for the loop to
come to an end, which its failed clock may have been. -/
def returned? (m : Tended) : Option (Except ClockFault Unit) :=
  if m.loop.stopRequested then
    match m.loop.phase with
    | .ended => some (.ok ())
    | .dead f => some (.error f)
    | _ => none
  else none

/-- **What ends a loop** after some steps of a course: with the phase it ends in
and the service it leaves. -/
inductive Ending (s : Service) (before : List LoopStep) : LoopStep → Phase → Service → Prop
  /-- It takes up a request, and says so. -/
  | stop (asked : .requestStop ∈ before) :
      Ending s before .takeStop .ended
        ((s.after (LoopStep.commands before)).report [.pruningStopped])
  /-- The clock gives no reading for a prune. Nothing but the clock may have
  changed by it. -/
  | fault {f : ClockFault} {k : Clock} (started : .tick ∈ before)
      (failed : (s.after (LoopStep.commands before)).clock.read = (.error f, k)) :
      Ending s before .tick (.dead f) { s.after (LoopStep.commands before) with clock := k }

/-- A course in which nothing ends the loop. -/
def Lasts (s : Service) (steps : List LoopStep) : Prop :=
  ∀ before a rest, steps = before ++ a :: rest → ∀ phase s', ¬ Ending s before a phase s'

/-! ## Steps and courses -/

@[simp] theorem after_nil (m : Tended) : m.after [] = m := rfl

@[simp] theorem after_cons (m : Tended) (a : LoopStep) (steps : List LoopStep) :
    m.after (a :: steps) = (m.step a).after steps := rfl

/-- Two courses in a row are one. -/
theorem after_append (m : Tended) (xs ys : List LoopStep) :
    m.after (xs ++ ys) = (m.after xs).after ys :=
  List.foldl_append

/-- The last step of a course. -/
theorem after_concat (m : Tended) (steps : List LoopStep) (a : LoopStep) :
    m.after (steps ++ [a]) = (m.after steps).step a := by
  rw [after_append]
  rfl

/-- An empty course ends nothing. -/
theorem lasts_nil (s : Service) : Lasts s [] := fun before a rest h => by simp at h

/-- A course lasts if it does up to its last step and that ends nothing. -/
theorem lasts_concat :
    Lasts s (steps ++ [a]) ↔ Lasts s steps ∧ ∀ phase s', ¬ Ending s steps a phase s' := by
  constructor
  · refine fun h => ⟨fun before b rest heq => ?_, h steps a [] rfl⟩
    exact h before b (rest ++ [a]) (by rw [heq]; simp)
  · rintro ⟨hinit, hlast⟩ before b rest heq
    rcases List.eq_nil_or_concat rest with rfl | ⟨rest, c, rfl⟩
    · obtain ⟨rfl, rfl⟩ : steps = before ∧ a = b := by simpa using heq
      exact hlast
    · have hsplit : steps ++ [a] = (before ++ b :: rest) ++ [c] := by
        rw [heq, List.concat_eq_append, List.append_assoc, List.cons_append]
      exact hinit before b rest (List.append_inj_left' hsplit rfl)

/-- **A course lasts, or some step is the first to end the loop.** -/
theorem lasts_or_ends (s : Service) (steps : List LoopStep) :
    Lasts s steps ∨ ∃ before a rest phase s',
      steps = before ++ a :: rest ∧ Lasts s before ∧ Ending s before a phase s' := by
  induction steps using List.reverseRecOn with
  | nil => exact .inl (lasts_nil s)
  | append_singleton steps a ih =>
    rcases ih with hinit | ⟨before, b, rest, phase, s', rfl, hbefore, hend⟩
    · by_cases hlast : ∃ phase s', Ending s steps a phase s'
      · obtain ⟨phase, s', hend⟩ := hlast
        exact .inr ⟨steps, a, [], phase, s', rfl, hinit, hend⟩
      · exact .inl (lasts_concat.2 ⟨hinit, fun phase s' hend => hlast ⟨phase, s', hend⟩⟩)
    · exact .inr ⟨before, b, rest ++ [a], phase, s', by simp, hbefore, hend⟩

/-- A step goes with a course that lasts unless it takes up a request or is a tick
without a reading. -/
theorem Lasts.concat (h : Lasts s steps) (hstop : a = .takeStop → .requestStop ∉ steps)
    (htick : a = .tick → .tick ∈ steps →
      (s.after (LoopStep.commands steps)).clock.read.1.isOk = true) :
    Lasts s (steps ++ [a]) := by
  refine lasts_concat.2 ⟨h, fun phase s' hend => ?_⟩
  cases hend with
  | stop asked => exact hstop rfl asked
  | fault started failed =>
    have hread := htick rfl started
    rw [failed] at hread
    cases hread

/-! ## Until the end -/

/-- A loop that nothing has ended, and its service. -/
structure Going (s : Service) (steps : List LoopStep) (m : Tended) : Prop where
  phase : m.loop.phase = .starting ∧ .tick ∉ steps ∨ m.loop.phase = .running ∧ .tick ∈ steps
  stopRequested : m.loop.stopRequested = true ↔ .requestStop ∈ steps
  service : m.service = s.after (LoopStep.commands steps)

theorem Going.isAlive (h : Going s steps m) : m.loop.isAlive = true := by
  rcases h.phase with ⟨hphase, -⟩ | ⟨hphase, -⟩ <;> simp [PruneLoop.isAlive, hphase]

/-- A step that leaves the phase as it is and tells the service no more than what
comes from elsewhere. -/
theorem Going.concat (h : Going s steps m) (ha : a ≠ .tick) {m' : Tended}
    (hphase : m'.loop.phase = m.loop.phase)
    (hstop : m'.loop.stopRequested = true ↔ .requestStop ∈ steps ++ [a])
    (hservice : m'.service = m.service.after (LoopStep.foreign? a).toList) :
    Going s (steps ++ [a]) m' where
  phase := by simpa [hphase, ha.symm] using h.phase
  stopRequested := hstop
  service := by rw [hservice, h.service, LoopStep.commands_concat ha, Service.after_append]

/-- **A step that ends nothing** lets the loop go on, and the service is told what
the step says. -/
theorem Going.step (h : Going s steps m) (hlast : ∀ phase s', ¬ Ending s steps a phase s') :
    Going s (steps ++ [a]) (m.step a) := by
  cases a with
  | requestStop => exact h.concat (by simp) rfl (by simp [Tended.step, PruneLoop.requestStop]) rfl
  | elsewhere c =>
    exact h.concat (by simp) rfl (by simpa [Tended.step] using h.stopRequested) rfl
  | takeStop =>
    -- nobody has asked
    have hasked : .requestStop ∉ steps := fun hmem => hlast _ _ (.stop hmem)
    have hstop : m.loop.stopRequested = false := by simpa using mt h.stopRequested.1 hasked
    have hstep : m.step .takeStop = m := by simp [Tended.step, PruneLoop.takeStop, hstop]
    rw [hstep]
    exact h.concat (by simp) rfl (by simpa using h.stopRequested) rfl
  | tick =>
    rcases h.phase with ⟨hphase, hnot⟩ | ⟨hphase, hmem⟩
    · -- the first tick starts the loop
      have hstep : m.step .tick = ⟨{ m.loop with phase := .running }, m.service⟩ := by
        simp [Tended.step, PruneLoop.tick, hphase]
      rw [hstep]
      refine ⟨.inr ⟨rfl, by simp⟩, by simpa using h.stopRequested, ?_⟩
      rw [h.service, LoopStep.commands_append_of_notMem hnot]
      simp [LoopStep.commands]
    · -- a later one is a prune, which the clock gives a reading
      have htick := PruneLoop.tick_of_running hphase m.service
      rcases hread : m.service.clock.read with ⟨f | now, k⟩
      · exact absurd (.fault hmem (h.service ▸ hread)) (hlast _ _)
      · have hstep : m.step .tick = ⟨m.loop, (m.service.step .prune).2⟩ := by
          rw [Tended.step, htick, hread]
        rw [hstep]
        refine ⟨.inr ⟨hphase, by simp⟩, by simpa using h.stopRequested, ?_⟩
        rw [LoopStep.commands_append_of_mem hmem, Service.after_append, ← h.service]
        rfl

/-- **A step that ends the loop** leaves it and the service as it says. -/
theorem Going.ends (h : Going s steps m) (hend : Ending s steps a phase s') :
    (m.step a).loop.phase = phase ∧ (m.step a).service = s' := by
  cases hend with
  | stop asked =>
    have hstop := h.stopRequested.2 asked
    simp [Tended.step, PruneLoop.takeStop, hstop, h.isAlive, h.service]
  | fault started failed =>
    rcases h.phase with ⟨-, hnot⟩ | ⟨hphase, -⟩
    · exact absurd started hnot
    · rw [← h.service] at failed ⊢
      rw [Tended.step, PruneLoop.tick_of_running hphase, failed,
        Service.step_prune_of_read_error failed]
      exact ⟨rfl, rfl⟩

/-- **Until something ends the loop** the service goes through the commands of the
course. -/
theorem going_after {l : PruneLoop} (hl : l.phase = .starting) (hstop : l.stopRequested = false)
    (h : Lasts s steps) : Going s steps (after ⟨l, s⟩ steps) := by
  induction steps using List.reverseRecOn with
  | nil => exact ⟨.inl ⟨hl, by simp⟩, by simp [hstop], rfl⟩
  | append_singleton steps a ih =>
    obtain ⟨hinit, hlast⟩ := lasts_concat.1 h
    rw [after_concat]
    exact (ih hinit).step hlast

/-! ## From the end on -/

/-- One step after the end of the loop: the loop does nothing more. -/
theorem step_of_not_isAlive (h : m.loop.isAlive = false) (a : LoopStep) :
    (m.step a).loop.phase = m.loop.phase
      ∧ (m.step a).service = m.service.after (LoopStep.foreign? a).toList := by
  cases a with
  | tick =>
    have hloop : m.loop.tick m.service = (m.loop, m.service) := by
      unfold PruneLoop.tick
      split <;> simp_all [PruneLoop.isAlive]
    simp [step, hloop, LoopStep.foreign?]
  | requestStop => exact ⟨rfl, rfl⟩
  | takeStop => simp [step, PruneLoop.takeStop, h, LoopStep.foreign?]
  | elsewhere c => exact ⟨rfl, rfl⟩

/-- **After the end of the loop** the service is told what comes from elsewhere. -/
theorem after_of_not_isAlive (h : m.loop.isAlive = false) (rest : List LoopStep) :
    (m.after rest).loop.phase = m.loop.phase
      ∧ (m.after rest).service = m.service.after (rest.filterMap LoopStep.foreign?) := by
  induction rest generalizing m with
  | nil => exact ⟨rfl, rfl⟩
  | cons a rest ih =>
    obtain ⟨hphase, hservice⟩ := step_of_not_isAlive h a
    have hend : (m.step a).loop.isAlive = false := by simpa only [PruneLoop.isAlive, hphase] using h
    obtain ⟨hphase', hservice'⟩ := ih hend
    refine ⟨hphase'.trans hphase, ?_⟩
    rw [after_cons, hservice', hservice, ← Service.after_append]
    cases a <;> rfl

/-- An end is an end. -/
theorem Ending.isAlive (h : Ending s before a phase s') {l : PruneLoop} (hl : l.phase = phase) :
    l.isAlive = false := by
  cases h <;> simp [PruneLoop.isAlive, hl]

/-- **After its end** the loop leaves the service to the others. -/
theorem after_ending {l : PruneLoop} (hl : l.phase = .starting) (hstop : l.stopRequested = false)
    (h : Lasts s before) (hend : Ending s before a phase s') (rest : List LoopStep) :
    (after ⟨l, s⟩ (before ++ a :: rest)).loop.phase = phase
      ∧ (after ⟨l, s⟩ (before ++ a :: rest)).service
        = s'.after (rest.filterMap LoopStep.foreign?) := by
  obtain ⟨hphase, hservice⟩ := (going_after hl hstop h).ends hend
  obtain ⟨hphase', hservice'⟩ := after_of_not_isAlive (hend.isAlive hphase) rest
  rw [after_append, after_cons]
  exact ⟨hphase'.trans hphase, by rw [hservice', hservice]⟩

/-! ## The line about the end -/

/-- The line tells of one event. -/
theorem stopReports_eq (m : Tended) : m.stopReports = m.service.log.count .pruningStopped :=
  List.countP_congr fun e _ => by rw [LogEvent.reads_pruningStopped, beq_iff_eq]

/-- Whether the line is to be there. -/
def stops (m : Tended) : Nat := if m.loop.phase = .ended then 1 else 0

/-- A step reports the end of the loop if it is the one that stops it. -/
theorem stopReports_step (m : Tended) (a : LoopStep) :
    (m.step a).stopReports + m.stops = m.stopReports + (m.step a).stops := by
  simp only [stopReports_eq]
  cases a with
  | elsewhere c => rw [step, Service.count_pruningStopped_step]; rfl
  | requestStop => rfl
  | takeStop =>
    cases hgoes : m.loop.stopRequested && m.loop.isAlive with
    | false => simp [step, PruneLoop.takeStop, hgoes]
    | true =>
      have hphase : m.loop.phase ≠ .ended := fun h => by simp [PruneLoop.isAlive, h] at hgoes
      simp [step, PruneLoop.takeStop, hgoes, stops, hphase, Service.report]
  | tick =>
    cases hphase : m.loop.phase with
    | running =>
      have hprune := Service.count_pruningStopped_step m.service .prune
      simp only [step, PruneLoop.tick_of_running hphase, hprune, stops, hphase]
      rcases m.service.clock.read with ⟨f | now, k⟩ <;> simp [hphase]
    | _ => simp [step, PruneLoop.tick, stops, hphase]

/-- Over a course it is reported as often as the loop has been stopped. -/
theorem stopReports_after (m : Tended) (steps : List LoopStep) :
    (m.after steps).stopReports + m.stops = m.stopReports + (m.after steps).stops := by
  induction steps generalizing m with
  | nil => rfl
  | cons a steps ih =>
    have hstep := m.stopReports_step a
    have hrest := ih (m.step a)
    rw [after_cons]
    omega

/-! ## The shutdown of the handle -/

/-- No step takes a request back. -/
theorem stopRequested_step (h : m.loop.stopRequested = true) (a : LoopStep) :
    (m.step a).loop.stopRequested = true := by
  cases a with
  | tick =>
    simp only [step, PruneLoop.tick]
    split
    · exact h
    · split <;> exact h
    · exact h
  | requestStop => rfl
  | takeStop =>
    simp only [step, PruneLoop.takeStop]
    split <;> exact h
  | elsewhere c => exact h

/-- No course takes a request back. -/
theorem stopRequested_after (h : m.loop.stopRequested = true) (steps : List LoopStep) :
    (m.after steps).loop.stopRequested = true := by
  induction steps generalizing m with
  | nil => exact h
  | cons a steps ih => exact ih (stopRequested_step h a)

/-- What was asked for in a course is asked for after it. -/
theorem stopRequested_of_mem (h : .requestStop ∈ steps) (m : Tended) :
    (m.after steps).loop.stopRequested = true := by
  obtain ⟨before, rest, rfl⟩ := List.append_of_mem h
  rw [after_append, after_cons]
  exact stopRequested_after rfl rest

/-- The shutdown of the handle returns when the loop has come to its end. -/
theorem returned?_eq_some {r : Except ClockFault Unit} (h : m.returned? = some r) :
    m.loop.stopRequested = true ∧ m.loop.isAlive = false := by
  unfold returned? at h
  split at h
  · next hstop =>
    refine ⟨hstop, ?_⟩
    split at h <;> simp_all [PruneLoop.isAlive]
  · cases h

/-- **Once the loop takes the request up** the shutdown of the handle returns. -/
theorem returned?_takeStop (h : m.loop.stopRequested = true) :
    ((m.step .takeStop).returned?).isSome = true := by
  cases hphase : m.loop.phase <;>
    simp [step, PruneLoop.takeStop, h, PruneLoop.isAlive, hphase, returned?]

/-- **Once it has returned** the service is left to the others. -/
theorem after_of_returned? {r : Except ClockFault Unit} (h : m.returned? = some r)
    (rest : List LoopStep) : (m.after rest).returned? = some r
      ∧ (m.after rest).service = m.service.after (rest.filterMap LoopStep.foreign?) := by
  obtain ⟨hstop, hend⟩ := returned?_eq_some h
  obtain ⟨hphase, hservice⟩ := after_of_not_isAlive hend rest
  refine ⟨?_, hservice⟩
  rw [← h]
  simp only [returned?, hphase, hstop, stopRequested_after hstop rest]

/-- Stopping a loop at once is to ask it and have it take that up. -/
theorem after_stop (m : Tended) : ∃ r, m.loop.stop m.service
    = (r, (m.after [.requestStop, .takeStop]).loop, (m.after [.requestStop, .takeStop]).service)
      ∧ (m.after [.requestStop, .takeStop]).returned? = some r := by
  cases hphase : m.loop.phase <;>
    simp [PruneLoop.stop, step, PruneLoop.requestStop, PruneLoop.takeStop, PruneLoop.isAlive,
      hphase, returned?]

/-! ## A new loop -/

/-- **A loop that keeps to its ticks**, whatever else goes on. -/
structure KeepsToTicks (m : Tended) : Prop where
  /-- Until something ends it the loop is alive, and the service goes through the
  commands of the course. -/
  lasts : ∀ steps, Lasts m.service steps → (m.after steps).loop.isAlive = true
    ∧ (m.after steps).service = m.service.after (LoopStep.commands steps)
  /-- What ends it ends it for good, and the service is left to the others. -/
  ends : ∀ before a phase s', Lasts m.service before → Ending m.service before a phase s' →
    ∀ rest, (m.after (before ++ a :: rest)).loop.phase = phase
      ∧ (m.after (before ++ a :: rest)).service
        = s'.after (rest.filterMap LoopStep.foreign?)
  /-- There is no other course. -/
  decided : ∀ steps, Lasts m.service steps ∨ ∃ before a rest phase s',
    steps = before ++ a :: rest ∧ Lasts m.service before ∧ Ending m.service before a phase s'
  /-- The first tick is no pass. -/
  first : ∀ steps, Lasts m.service steps → .tick ∉ steps →
    (m.after (steps ++ [.tick])).service = (m.after steps).service
  /-- Every later one is a prune of the service as it finds it. -/
  pass : ∀ steps, Lasts m.service steps → .tick ∈ steps →
    (m.after (steps ++ [.tick])).service = ((m.after steps).service.step .prune).2
  /-- A call from elsewhere, the shutdown of the service too, leaves the loop as it
  is. -/
  elsewhere : ∀ steps c, (m.after (steps ++ [.elsewhere c])).loop = (m.after steps).loop
  /-- Stopping the loop is to ask it and to wait for it. -/
  stop : ∀ steps, ∃ r, (m.after steps).loop.stop (m.after steps).service
    = (r, (m.after (steps ++ [.requestStop, .takeStop])).loop,
        (m.after (steps ++ [.requestStop, .takeStop])).service)
      ∧ (m.after (steps ++ [.requestStop, .takeStop])).returned? = some r
  /-- The shutdown of the handle returns once the loop takes it up. -/
  returns : ∀ steps, .requestStop ∈ steps →
    ((m.after (steps ++ [.takeStop])).returned?).isSome = true
  /-- Once the shutdown of the handle has returned the loop does nothing. -/
  returned : ∀ steps r, (m.after steps).returned? = some r → ∀ rest,
    (m.after (steps ++ rest)).returned? = some r
      ∧ (m.after (steps ++ rest)).service
        = (m.after steps).service.after (rest.filterMap LoopStep.foreign?)
  /-- A loop that was stopped has said so once, and no other has. -/
  reports : ∀ steps, (m.after steps).stopReports
    = m.stopReports + if (m.after steps).loop.phase = .ended then 1 else 0

/-- A new loop does. -/
theorem keepsToTicks {l : PruneLoop} (hl : l.phase = .starting) (hstop : l.stopRequested = false)
    (s : Service) : KeepsToTicks ⟨l, s⟩ where
  lasts steps h := ⟨(going_after hl hstop h).isAlive, (going_after hl hstop h).service⟩
  ends _ _ _ _ h hend rest := after_ending hl hstop h hend rest
  decided := lasts_or_ends s
  first steps h hnot := by
    rcases (going_after hl hstop h).phase with ⟨hphase, -⟩ | ⟨-, hmem⟩
    · rw [after_concat]
      simp [step, PruneLoop.tick, hphase]
    · exact absurd hmem hnot
  pass steps h hmem := by
    rcases (going_after hl hstop h).phase with ⟨-, hnot⟩ | ⟨hphase, -⟩
    · exact absurd hmem hnot
    · rw [after_concat, step, PruneLoop.tick_of_running hphase]
  elsewhere steps c := by rw [after_concat]; rfl
  stop steps := by
    rw [after_append]
    exact after_stop _
  returns steps hmem := by
    rw [after_concat]
    exact returned?_takeStop (stopRequested_of_mem hmem _)
  returned steps r h rest := by
    rw [after_append]
    exact after_of_returned? h rest
  reports steps := by
    have hafter := stopReports_after ⟨l, s⟩ steps
    simpa [stops, hl] using hafter

end Tended

/-- **Periodic pruning is a prune at each tick, and nothing more.** A period of
zero is refused. A loop with any other one, next to any service and in any course
of ticks, calls from elsewhere and requests to stop: its first tick does nothing
and every later one is the prune that a caller could have asked for at that point;
it goes on until it takes up a request to stop, which it reports once, or until its
clock gives no reading, which removes nothing; the shutdown of the service is no
such end; and once the shutdown of its handle has returned, the service is told
nothing on its behalf. -/
theorem periodic_pruning_keeps_to_its_ticks (period : Span) :
    (period.toNanos = 0 → PruneLoop.ofPeriod period = .error .zero) ∧
      (0 < period.toNanos → ∃ l, PruneLoop.ofPeriod period = .ok l ∧ l.period = period ∧
        ∀ s : Service, Tended.KeepsToTicks ⟨l, s⟩) := by
  refine ⟨fun h => ?_, fun h => ⟨⟨period, h, false, .starting⟩, ?_, rfl, fun s => ?_⟩⟩
  · rw [PruneLoop.ofPeriod, dif_neg (by omega)]
  · rw [PruneLoop.ofPeriod, dif_pos h]
  · exact Tended.keepsToTicks rfl rfl s

/-- A loop of thirty seconds outlives the shutdown of its service. Its second tick
prunes the window of a check from before; it is asked to stop, and once it has
stopped a window that has gone stale since stays, though a tick is still to come. -/
theorem periodic_pruning_keeps_to_its_ticks_past_a_shutdown :
    let wait : Command := .advance (.ofSeconds 601 (by decide))
    let before : List LoopStep := [.tick, .elsewhere (.check "a"), .elsewhere wait,
      .elsewhere .shutDown, .tick, .elsewhere (.check "b"), .requestStop]
    let s := Service.begin (.ofSettings .default "" "") .fresh
    let s' := ((s.after [.check "a", wait, .shutDown, .prune, .check "b"]).report
      [.pruningStopped]).after [wait]
    ∃ l, PruneLoop.ofPeriod (.ofSeconds 30 (by decide)) = .ok l ∧
      (Tended.after ⟨l, s⟩ (before ++ .takeStop :: [.elsewhere wait, .tick])).service = s' ∧
      s'.dispatcher.counters.windowsPruned = 1 ∧ s'.dispatcher.domainGate.size = 1 := by
  intro wait before s s'
  obtain ⟨-, hpositive⟩ := periodic_pruning_keeps_to_its_ticks (.ofSeconds 30 (by decide))
  obtain ⟨l, hl, -, hkeeps⟩ := hpositive (by decide)
  have hlasts : Tended.Lasts s (([] : List LoopStep) ++ [LoopStep.tick]
      ++ [LoopStep.elsewhere (.check "a")] ++ [LoopStep.elsewhere wait]
      ++ [LoopStep.elsewhere .shutDown] ++ [LoopStep.tick] ++ [LoopStep.elsewhere (.check "b")]
      ++ [LoopStep.requestStop]) := by
    iterate 2 refine Tended.Lasts.concat ?_ (by simp) (by simp)
    -- of the two ticks this one is a prune, and it has its reading
    refine Tended.Lasts.concat ?_ (by simp) fun _ _ => by decide
    iterate 4 refine Tended.Lasts.concat ?_ (by simp) (by simp)
    exact Tended.lasts_nil s
  obtain ⟨-, hservice⟩ := (hkeeps s).ends before .takeStop _ _ hlasts
    (.stop (by simp [before])) [.elsewhere wait, .tick]
  have hcommands : LoopStep.commands before = [.check "a", wait, .shutDown, .prune, .check "b"] :=
    rfl
  have hforeign : List.filterMap LoopStep.foreign? [.elsewhere wait, .tick] = [wait] := rfl
  rw [hcommands, hforeign] at hservice
  exact ⟨l, hl, hservice, by decide, by decide⟩

end Herald

import Herald.Proofs.Delivery.Standing
/-!
# How often an end is reported

Every operation reports its own events, and the two that tell of an end, of the
service or of its periodic pruning, are among those of none but the shutdown
(`count_log_step`). The first shutdown reports it and later ones find nothing to
do, so it is reported as often as the service is shut down: once or not at all.
-/

namespace Herald

/-- Whether an event can be reported again and again. The ones that cannot tell of
an end: of the service, and of its periodic pruning. -/
def LogEvent.isRoutine : LogEvent → Bool
  | .shuttingDown | .pruningStopped => false
  | _ => true

namespace Service

variable {s : Service} {c : Command}

/-- How often the shutdown was reported. -/
def shutDownReports (s : Service) : Nat := s.log.count .shuttingDown

/-- It is reported by a line of its own. -/
theorem shutDownReports_eq (s : Service) :
    s.shutDownReports = s.log.countP fun e =>
      e.level = .info ∧ e.message = "shutting down pushover dispatcher" :=
  List.countP_congr fun e _ => by simp [← LogEvent.shuttingDown_iff]

/-! ## What each operation reports -/

section Routine

variable {e : LogEvent}

/-- Reports of routine do not count. -/
theorem count_log_report (he : e.isRoutine = false) {es : List LogEvent}
    (hes : ∀ e' ∈ es, e'.isRoutine = true) (s : Service) :
    (s.report es).log.count e = s.log.count e := by
  have hnone : e ∉ es := fun hmem => by simp [hes e hmem] at he
  rw [report, List.count_append, List.count_eq_zero.2 hnone, Nat.add_zero]

theorem isRoutine_concludeSend (d : Dispatcher) (n : Notice) (r : Except SendError Unit) :
    ∀ e ∈ (d.concludeSend n r).1, e.isRoutine = true := by
  cases r <;> simp [Dispatcher.concludeSend, LogEvent.isRoutine]

theorem isRoutine_pruneAt (d : Dispatcher) (now : Moment) :
    ∀ e ∈ (d.pruneAt now).1.2, e.isRoutine = true := by
  simp only [Dispatcher.pruneAt, Dispatcher.notePrune]
  split <;> simp [LogEvent.isRoutine]

theorem count_log_sendLater (he : e.isRoutine = false) (s : Service) (n : Notice)
    (token : Option String) : (s.sendLater n token).log.count e = s.log.count e := by
  simp only [sendLater]
  split
  · exact count_log_report he (by simp [LogEvent.isRoutine]) _
  · rfl

theorem count_log_handle (he : e.isRoutine = false) (s : Service) (m : RuleMatch)
    (time : Timestamp) : (s.handle m time).2.log.count e = s.log.count e := by
  have hcases := s.handle_cases m time
  generalize s.handle m time = r at *
  obtain ⟨a, s'⟩ := r
  cases hcases with
  | noRules empty => rfl
  | fault f went => rfl
  | rateLimited scope went => exact count_log_report he (by simp [LogEvent.isRoutine]) _
  | dispatched rule first went =>
    exact (count_log_sendLater he _ _ _).trans
      (count_log_report he (by simp [LogEvent.isRoutine]) _)

theorem count_log_prune (he : e.isRoutine = false) (s : Service) :
    s.prune.2.log.count e = s.log.count e := by
  simp only [prune, Dispatcher.prune_eq]
  rcases s.clock.read with ⟨f | now, c⟩
  · rfl
  · exact count_log_report he (isRoutine_pruneAt _ _) _

theorem count_log_sendNow (he : e.isRoutine = false) (s : Service) (n : Notice) (o : Outcome) :
    (s.sendNow n o).2.log.count e = s.log.count e := by
  simp only [sendNow]
  split <;> exact count_log_report he (isRoutine_concludeSend _ _ _) _

theorem count_log_finish (he : e.isRoutine = false) (s : Service) (p : Send)
    (r : Except SendError Unit) : (s.finish p r).log.count e = s.log.count e := by
  refine count_log_report he (fun e' hmem => ?_) _
  rcases List.mem_append.1 hmem with hconclude | hfailure
  · exact isRoutine_concludeSend _ _ _ e' hconclude
  · cases r with
    | ok u => cases hfailure
    | error err =>
      rw [List.mem_singleton.1 hfailure]
      rfl

theorem count_log_turn (he : e.isRoutine = false) (s : Service) (number : Nat) :
    (s.turn number).log.count e = s.log.count e := by
  simp only [turn]
  split
  · rfl
  · split
    · exact count_log_report he (by simp [LogEvent.isRoutine]) _
    · split
      · exact count_log_finish he _ _ _
      · rfl
      · rfl
      · exact count_log_finish he _ _ _

theorem count_log_deliver (e : LogEvent) (s : Service) (number : Nat) (o : Outcome) :
    (s.deliver number o).log.count e = s.log.count e := by
  simp only [deliver]
  split
  · split <;> rfl
  · rfl

/-- **Only the shutdown tells of an end.** -/
theorem count_log_step (he : e.isRoutine = false) (hc : c ≠ .shutDown) :
    (s.step c).2.log.count e = s.log.count e := by
  cases c with
  | advance d => rw [step, move_snd]
  | setOffset d => rw [step, move_snd]
  | failNext => rfl
  | check domain => rw [step_check_snd]; rfl
  | handle m time => exact count_log_handle he s m time
  | prune => rw [step_prune_snd, count_log_prune he]
  | send n outcome => exact count_log_sendNow he s n outcome
  | sendLater n token => exact count_log_sendLater he s n token
  | cancel token => rfl
  | shutDown => exact absurd rfl hc
  | turn number => exact count_log_turn he s number
  | deliver number outcome => exact count_log_deliver e s number outcome

end Routine

/-! ## What a run reports -/

/-- A shutdown reports itself if it is the first one, and nothing else. -/
theorem log_shutDown (s : Service) : s.shutDown.log
    = s.log ++ if s.dispatcher.isShutDown then [] else [.shuttingDown] := by
  simp only [shutDown, Dispatcher.shutDown]
  split <;> rfl

/-- **No command ends the periodic pruning.** -/
theorem count_pruningStopped_step (s : Service) (c : Command) :
    (s.step c).2.log.count .pruningStopped = s.log.count .pruningStopped := by
  by_cases hc : c = .shutDown
  · subst hc
    simp only [step, log_shutDown]
    split <;> simp
  · exact count_log_step rfl hc

/-- **The shutdown is reported once**: as often as it has happened. -/
theorem shutDownReports_after {d : Dispatcher} (hd : d.isShutDown = false) (clock : Clock)
    (cs : List Command) :
    let s := (begin d clock).after cs
    s.shutDownReports = if s.dispatcher.isShutDown then 1 else 0 := by
  refine invariant_after
    (P := fun s => s.shutDownReports = if s.dispatcher.isShutDown then 1 else 0) ?_
    (fun s c h => ?_) cs
  · simp [begin, ofDispatcher, shutDownReports, hd]
  · by_cases hc : c = .shutDown
    · -- the first shutdown is reported, and there is nothing to do at the second
      subst hc
      cases hshut : s.dispatcher.isShutDown with
      | true => simpa [step, shutDown, Dispatcher.shutDown, report, shutDownReports, hshut] using h
      | false => simpa [step, shutDown, Dispatcher.shutDown, report, shutDownReports, hshut] using h
    · have hstanding := congrArg Standing.isShutDown (s.standing_step c)
      have hkept : (s.step c).2.dispatcher.isShutDown = s.dispatcher.isShutDown := by
        cases c <;> first | exact absurd rfl hc | exact hstanding
      rw [shutDownReports, count_log_step rfl hc, hkept]
      exact h

end Service

end Herald

import Herald.Proofs.Dispatch.Independence
import Herald.Proofs.Rate.Faults
/-!
# When a check gets no reading

A check, a filter result with a rule and a prune begin with a reading of the
clock, and none of them writes anything before it has one. Without it they end
with the clock's fault; a check leaves the lock of the global gate poisoned, and
all else is as it was (`step_of_read_error`). What is poisoned stays so, and yet no
later command sees it: a service goes on as it would if its lock were sound
(`step_heal`). A check reads twice, but a clock that has given one reading gives
another. The rest is what was said of a gate on its own, for more commands: sends
can come between a failure that is asked for and the command it ends, and they see
neither the clock nor the lock (`step_refit`).
-/

namespace Herald

/-- Whether a command begins with a reading of the clock. -/
def Command.readsClock : Command → Bool
  | .check _ => true
  | .handle m _ => !m.rules.isEmpty
  | .prune => true
  | _ => false

/-- Whether a command moves the clock and does nothing else. -/
def Command.isMove : Command → Bool
  | .advance _ | .setOffset _ => true
  | _ => false

/-- Whether a command neither asks for a failure nor uses one up. -/
def Command.keepsFailure : Command → Bool
  | .failNext => false
  | c => !c.readsClock

namespace Service

variable {s t : Service} {c : Command}

/-- The service with no failure asked for. -/
def disarm (s : Service) : Service := { s with clock := s.clock.disarm }

/-- The service as if no check had ever failed. -/
def heal (s : Service) : Service := { s with dispatcher := s.dispatcher.heal }

/-- The service with another global gate and another clock. -/
def refit (s : Service) (g : GlobalGate) (k : Clock) : Service :=
  { s with dispatcher := { s.dispatcher with globalGate := g }, clock := k }

theorem move_eq_fault_iff {r : Except ClockFault Unit × Clock} {f : ClockFault} :
    (s.move r).1 = .fault f ↔ r.1 = .error f := by
  rcases r with ⟨_ | _, _⟩ <;> simp [move]

/-! ## Without a reading -/

/-- A prune without its reading changes nothing but the clock. -/
theorem step_prune_of_read_error {f : ClockFault} {k : Clock} (h : s.clock.read = (.error f, k)) :
    s.step .prune = (.fault f, { s with clock := k }) := by
  rw [step_prune_eq, h]

/-- **A command without its reading** ends with the fault of the clock, and but for the
lock of the global gate nothing has changed except the clock. -/
theorem step_of_read_error (hc : c.readsClock = true) {f : ClockFault} {k : Clock}
    (h : s.clock.read = (.error f, k)) :
    (s.step c).1 = .fault f ∧ (s.step c).2.heal = { s with clock := k }.heal := by
  cases c with
  | check domain =>
    simp only [step, check_eq, h]
    exact ⟨trivial, rfl⟩
  | handle m time =>
    rcases hrules : m.rules with _ | ⟨rule, rules⟩
    · simp [Command.readsClock, hrules] at hc
    · simp only [step, handle, hrules, check_eq, h]
      exact ⟨trivial, rfl⟩
  | prune =>
    rw [step_prune_of_read_error h]
    exact ⟨rfl, rfl⟩
  | _ => cases hc

/-- A move that leads too far breaks the clock and does nothing else. -/
theorem step_beyondRange (hmove : c.isMove = true) (h : (s.step c).1 = .fault .beyondRange) :
    (s.step c).2 = { s with clock := { s.clock with isBroken := true } } := by
  cases c with
  | advance d => rw [step, move_snd, Clock.advance_beyondRange (move_eq_fault_iff.1 h)]
  | setOffset d => rw [step, move_snd, Clock.setOffset_beyondRange (move_eq_fault_iff.1 h)]
  | _ => cases hmove

/-! ## Sends see neither the clock nor the global gate -/

variable {g : GlobalGate} {k : Clock}

theorem sendLater_refit (s : Service) (n : Notice) (token : Option String) :
    (s.refit g k).sendLater n token = (s.sendLater n token).refit g k := by
  cases hshut : s.dispatcher.isShutDown <;>
    simp [sendLater, refit, report, Dispatcher.countCancelled, hshut]

theorem concludeSend_refit (d : Dispatcher) (n : Notice) (r : Except SendError Unit) :
    Dispatcher.concludeSend { d with globalGate := g } n r
      = ((d.concludeSend n r).1, { (d.concludeSend n r).2 with globalGate := g }) := by
  cases r <;> rfl

theorem sendNow_refit (s : Service) (n : Notice) (o : Outcome) :
    (s.refit g k).sendNow n o = ((s.sendNow n o).1, (s.sendNow n o).2.refit g k) := by
  have hrequest : (s.refit g k).dispatcher.request n = s.dispatcher.request n := rfl
  simp only [sendNow, hrequest]
  cases s.dispatcher.request n <;>
    simp only [refit, report, concludeSend_refit]

theorem turn_refit (s : Service) (number : Nat) :
    (s.refit g k).turn number = (s.turn number).refit g k := by
  have hp : (s.refit g k).pending? number = s.pending? number := rfl
  simp only [turn, hp]
  cases s.pending? number with
  | none => rfl
  | some p =>
    have hup : (s.refit g k).isGivenUp p = s.isGivenUp p := rfl
    have hrequest : (s.refit g k).dispatcher.request p.notice = s.dispatcher.request p.notice := rfl
    have hfinish : ∀ r, (s.refit g k).finish p r = (s.finish p r).refit g k := fun r => by
      cases r <;> rfl
    simp only [hup, hrequest, hfinish]
    split
    · rfl
    · split <;> rfl

theorem deliver_refit (s : Service) (number : Nat) (o : Outcome) :
    (s.refit g k).deliver number o = (s.deliver number o).refit g k := by
  have hp : (s.refit g k).pending? number = s.pending? number := rfl
  simp only [deliver, hp]
  split
  · split <;> rfl
  · rfl

theorem shutDown_refit (s : Service) : (s.refit g k).shutDown = s.shutDown.refit g k := by
  cases hshut : s.dispatcher.isShutDown <;>
    simp [shutDown, Dispatcher.shutDown, refit, report, hshut]

/-- A filter result without a rule does nothing at all. -/
theorem step_handle_noRules {m : RuleMatch} (h : m.rules = []) (time : Timestamp) :
    s.step (.handle m time) = (.matched .noRules, s) := by
  simp only [step, handle, h]

/-- **A command without an admission part** goes the same by any clock and behind any
global gate. -/
theorem step_refit (h : c.admissionPart = none) :
    (s.refit g k).step c = ((s.step c).1, (s.step c).2.refit g k) := by
  cases c with
  | handle m time =>
    have hrules : m.rules = [] := by
      by_contra hne
      simp [Command.admissionPart, hne] at h
    rw [step_handle_noRules hrules, step_handle_noRules hrules]
  | send n outcome => simp only [step, sendNow_refit]
  | sendLater n token => simp only [step, sendLater_refit]
  | cancel token => rfl
  | shutDown => simp only [step, shutDown_refit]
  | turn number => simp only [step, turn_refit]
  | deliver number outcome => simp only [step, deliver_refit]
  | advance d => cases h
  | setOffset d => cases h
  | failNext => cases h
  | check domain => cases h
  | prune => cases h

/-- **A command without an admission part** goes with any change of the global gate and of the
clock: before the command or after it, the change makes the same of both. -/
theorem step_refit_of_gatehouse (h : c.admissionPart = none) (fg : GlobalGate → GlobalGate)
    (fk : Clock → Clock) :
    (s.refit (fg s.dispatcher.globalGate) (fk s.clock)).step c
      = ((s.step c).1,
          (s.step c).2.refit (fg (s.step c).2.dispatcher.globalGate) (fk (s.step c).2.clock)) := by
  obtain ⟨hgates, hclock⟩ := gatehouse_eq_iff.1 (gatehouse_step_of_none (s := s) h)
  rw [step_refit h, Dispatcher.globalGate_of_gates hgates, hclock]

/-! ## Between a failure and the command it ends -/

theorem move_disarm (s : Service) (r : Except ClockFault Unit) (k : Clock) :
    s.disarm.move (r, k.disarm) = ((s.move (r, k)).1, (s.move (r, k)).2.disarm) := by
  cases r <;> rfl

/-- A command that neither asks for a failure nor reads the clock moves it, or
cannot see it at all. -/
theorem isMove_or_admissionPart (h : c.keepsFailure = true) :
    c.isMove = true ∨ c.admissionPart = none := by
  cases c with
  | handle m time =>
    have hrules : m.rules = [] := by simpa [Command.keepsFailure, Command.readsClock] using h
    exact .inr (by simp [Command.admissionPart, hrules])
  | advance d => exact .inl rfl
  | setOffset d => exact .inl rfl
  | failNext => cases h
  | check domain => cases h
  | prune => cases h
  | _ => exact .inr rfl

/-- A failure that was asked for is kept by what does not read the clock. -/
theorem failsNext_step (h : c.keepsFailure = true) :
    (s.step c).2.clock.failsNext = s.clock.failsNext := by
  rcases isMove_or_admissionPart h with hmove | hpart
  · cases c with
    | advance d => simp [step]
    | setOffset d => simp [step]
    | _ => cases hmove
  · exact congrArg (fun g : Gates × Clock => g.2.failsNext) (gatehouse_step_of_none hpart)

/-- **What does not read the clock** does not see a failure that was asked
for. -/
theorem step_disarm (h : c.keepsFailure = true) :
    s.disarm.step c = ((s.step c).1, (s.step c).2.disarm) := by
  rcases isMove_or_admissionPart h with hmove | hpart
  · cases c with
    | advance d =>
      simp only [step]
      rw [← move_disarm, ← Clock.advance_disarm]
      rfl
    | setOffset d =>
      simp only [step]
      rw [← move_disarm, ← Clock.setOffset_disarm]
      rfl
    | _ => cases hmove
  · exact step_refit_of_gatehouse hpart id Clock.disarm

/-! ## Behind a poisoned lock -/

theorem sendLater_heal (s : Service) (n : Notice) (token : Option String) :
    s.heal.sendLater n token = (s.sendLater n token).heal :=
  congrArg Prod.snd
    (step_refit_of_gatehouse (s := s) (c := .sendLater n token) rfl GlobalGate.heal id)

theorem check_heal (s : Service) (domain : String) :
    (s.heal.check domain).1 = (s.check domain).1
      ∧ (s.heal.check domain).2.heal = (s.check domain).2.heal := by
  have hclock : s.heal.clock = s.clock := rfl
  have hat : ∀ now, s.heal.dispatcher.checkAt domain now = _ := s.dispatcher.checkAt_heal domain
  rw [check_eq, check_eq, hclock]
  rcases s.clock.read with ⟨f | now, k⟩
  · exact ⟨rfl, rfl⟩
  · simp only [hat]
    exact ⟨trivial, rfl⟩

/-- **A step does not see a failure in the past**: with a sound lock it is answered
the same, and the lock is all it leaves in another state. -/
theorem step_heal (s : Service) (c : Command) :
    (s.heal.step c).1 = (s.step c).1 ∧ (s.heal.step c).2.heal = (s.step c).2.heal := by
  have hclock : s.heal.clock = s.clock := rfl
  cases hpart : c.admissionPart with
  | none =>
    have hstep : s.heal.step c = ((s.step c).1, (s.step c).2.heal) :=
      step_refit_of_gatehouse hpart GlobalGate.heal id
    rw [hstep]
    exact ⟨rfl, rfl⟩
  | some c' =>
    cases c with
    | advance d =>
      simp only [step, hclock]
      rcases s.clock.advance d with ⟨_ | _, k⟩ <;> exact ⟨rfl, rfl⟩
    | setOffset d =>
      simp only [step, hclock]
      rcases s.clock.setOffset d with ⟨_ | _, k⟩ <;> exact ⟨rfl, rfl⟩
    | failNext => exact ⟨rfl, rfl⟩
    | check domain =>
      obtain ⟨hanswer, hheal⟩ := s.check_heal domain
      simp only [step]
      rcases hl : s.heal.check domain with ⟨r, s₁⟩
      rcases hr : s.check domain with ⟨r', s₂⟩
      rw [hl, hr] at hanswer hheal
      obtain rfl : r = r' := hanswer
      cases r <;> exact ⟨rfl, hheal⟩
    | handle m time =>
      obtain ⟨hanswer, hheal⟩ := s.check_heal m.host
      rcases hrules : m.rules with _ | ⟨rule, rules⟩
      · simp [Command.admissionPart, hrules] at hpart
      · simp only [step, handle, hrules]
        rcases hl : s.heal.check m.host with ⟨r, s₁⟩
        rcases hr : s.check m.host with ⟨r', s₂⟩
        rw [hl, hr] at hanswer hheal
        obtain rfl : r = r' := hanswer
        rcases r with f | _ | scope
        · exact ⟨rfl, hheal⟩
        · -- what is sent next to the gates is the same on both sides
          refine ⟨rfl, ?_⟩
          rw [← sendLater_heal, ← sendLater_heal]
          exact congrArg (fun s' : Service => (s'.report _).sendLater _ none) hheal
        · exact ⟨rfl, congrArg (fun s' : Service => s'.report _) hheal⟩
    | prune =>
      have hat : ∀ now, s.heal.dispatcher.pruneAt now = _ := s.dispatcher.pruneAt_heal
      have hgate : s.heal.dispatcher.domainGate = s.dispatcher.domainGate := rfl
      rw [step_prune_eq, step_prune_eq, hclock, hgate]
      rcases s.clock.read with ⟨f | now, k⟩
      · exact ⟨rfl, rfl⟩
      · simp only [hat]
        exact ⟨trivial, rfl⟩
    | _ => cases hpart

/-- **Services that are the same but for failures in the past** answer a command the
same, and stay the same but for these. -/
theorem step_congr (h : s.heal = t.heal) (c : Command) :
    (s.step c).1 = (t.step c).1 ∧ (s.step c).2.heal = (t.step c).2.heal := by
  obtain ⟨hanswer, hheal⟩ := s.step_heal c
  obtain ⟨hanswer', hheal'⟩ := t.step_heal c
  rw [h] at hanswer hheal
  exact ⟨hanswer.symm.trans hanswer', hheal.symm.trans hheal'⟩

/-- **Services that are the same but for failures in the past** answer every run the same. -/
theorem run_congr (h : s.heal = t.heal) (cs : List Command) :
    s.answers cs = t.answers cs ∧ (s.after cs).heal = (t.after cs).heal := by
  induction cs generalizing s t with
  | nil => exact ⟨rfl, h⟩
  | cons c cs ih =>
    obtain ⟨hanswer, hstep⟩ := step_congr h c
    obtain ⟨hanswers, hafter⟩ := ih hstep
    rw [answers_cons, answers_cons, hanswer, hanswers]
    exact ⟨rfl, hafter⟩

/-- **A failure hits one command and leaves no trace.** It may have been asked
for a while ago: the first command that reads the clock fails, and everything
else is answered and ends as if neither the failure nor that command had
been. -/
theorem run_armed (h : s.clock.failsNext = true) {between : List Command}
    (hbetween : ∀ d ∈ between, d.keepsFailure = true) (hc : c.readsClock = true)
    (cs : List Command) :
    s.answers (between ++ c :: cs)
        = s.disarm.answers between ++ .fault .readFailed :: (s.disarm.after between).answers cs
      ∧ (s.after (between ++ c :: cs)).heal = (s.disarm.after (between ++ cs)).heal := by
  -- on what comes between: it takes the service on, and the failure with it
  induction between generalizing s with
  | nil =>
    obtain ⟨hanswer, hheal⟩ := step_of_read_error hc (Clock.read_armed h)
    obtain ⟨hanswers, hafter⟩ := run_congr hheal cs
    rw [List.nil_append, answers_cons, hanswer, hanswers]
    exact ⟨rfl, hafter⟩
  | cons d between ih =>
    obtain ⟨hd, hrest⟩ := List.forall_mem_cons.1 hbetween
    obtain ⟨hanswers, hafter⟩ := ih ((failsNext_step hd).trans h) hrest
    simp [step_disarm hd, hanswers, hafter]

/-! ## With a broken clock -/

/-- With a broken clock a command changes no gate but for its lock, and the clock
stays broken. -/
theorem step_of_isBroken (h : s.clock.isBroken = true) (c : Command) :
    (s.step c).2.dispatcher.heal.gates = s.dispatcher.heal.gates
      ∧ (s.step c).2.clock.isBroken = true := by
  -- a command that reads stops at its reading; of the others only a move can see the clock
  by_cases hc : c.readsClock = true
  · obtain ⟨f, k, hread, hbroken⟩ := Clock.read_of_isBroken h
    obtain ⟨-, hheal⟩ := step_of_read_error hc hread
    exact ⟨congrArg (fun s' : Service => s'.dispatcher.gates) hheal,
      (congrArg (fun s' : Service => s'.clock.isBroken) hheal).trans hbroken⟩
  · cases hpart : c.admissionPart with
    | none =>
      obtain ⟨hgates, hclock⟩ := gatehouse_eq_iff.1 (gatehouse_step_of_none (s := s) hpart)
      exact ⟨Dispatcher.gates_heal_congr hgates, hclock ▸ h⟩
    | some c' =>
      cases c with
      | advance d =>
        rw [step, Clock.advance_of_isBroken h]
        exact ⟨rfl, h⟩
      | setOffset d =>
        rw [step, Clock.setOffset_of_isBroken h]
        exact ⟨rfl, h⟩
      | failNext => exact ⟨rfl, h⟩
      | handle m time => simp_all [Command.admissionPart, Command.readsClock]
      | check domain => exact absurd rfl hc
      | prune => exact absurd rfl hc
      | _ => cases hpart

/-- **With a broken clock no window and none of the gates' counters ever moves
again.** -/
theorem gates_after_of_isBroken (h : s.clock.isBroken = true) (cs : List Command) :
    (s.after cs).dispatcher.heal.gates = s.dispatcher.heal.gates :=
  (invariant_after
    (P := fun s' => s'.dispatcher.heal.gates = s.dispatcher.heal.gates ∧ s'.clock.isBroken = true)
    ⟨rfl, h⟩
    (fun s' c hs' => by
      obtain ⟨hgates, hbroken⟩ := step_of_isBroken hs'.2 c
      exact ⟨hgates.trans hs'.1, hbroken⟩) cs).1

/-- **A service whose clock gives no reading stays as it is**, but for the lock of its
global gate, and that makes no difference to it. -/
structure FailsCleanly (s : Service) : Prop where
  /-- A failure that was asked for ends one command and is used up. -/
  armed : s.clock.failsNext = true → ∀ c : Command, c.readsClock = true →
    (s.step c).1 = .fault .readFailed ∧ (s.step c).2.heal = s.disarm.heal
  /-- A broken clock ends every command that reads it. -/
  broken : s.clock.failsNext = false → s.clock.isBroken = true →
    ∀ c : Command, c.readsClock = true →
      (s.step c).1 = .fault .broken ∧ (s.step c).2.heal = s.heal
  /-- A clock is broken by a move that leads too far. -/
  breaks : ∀ c : Command, c.isMove = true → (s.step c).1 = .fault .beyondRange →
    (s.step c).2 = { s with clock := { s.clock with isBroken := true } }
  /-- After a failure everything goes as if neither it nor the command it ended
  had been. -/
  recovers : s.clock.failsNext = true → ∀ between : List Command,
    (∀ d ∈ between, d.keepsFailure = true) → ∀ c : Command, c.readsClock = true →
      ∀ cs : List Command,
        s.answers (between ++ c :: cs)
            = s.disarm.answers between
              ++ .fault .readFailed :: (s.disarm.after between).answers cs
          ∧ (s.after (between ++ c :: cs)).heal = (s.disarm.after (between ++ cs)).heal
  /-- With a broken clock no window and none of the gates' counters ever moves
  again. -/
  stands : s.clock.isBroken = true → ∀ cs : List Command,
    (s.after cs).dispatcher.heal.gates = s.dispatcher.heal.gates
  /-- A filter result without a rule needs no clock. -/
  noRules : ∀ m : RuleMatch, m.rules = [] → ∀ time : Timestamp,
    s.step (.handle m time) = (.matched .noRules, s)

/-- Every service does, in every state. -/
theorem failsCleanly (s : Service) : s.FailsCleanly where
  armed h _ hc := step_of_read_error hc (Clock.read_armed h)
  broken hf hb _ hc := step_of_read_error hc (Clock.read_broken hf hb)
  breaks _ := step_beyondRange
  recovers h _ hbetween _ hc := run_armed h hbetween hc
  stands := gates_after_of_isBroken
  noRules _ := step_handle_noRules

end Service

/-- **A reading that fails changes nothing.** The domain gate and the global
gate, each with its clock, and the service, whatever state they are in: a call
that gets no reading ends with the fault of the clock and leaves all else as it
was, but for the lock of a global gate that it was holding. Nothing that comes later
goes by that: a failure that was asked for leaves no trace behind it, and with a
broken clock no window and no counter of a check or a prune ever moves again. -/
theorem failed_readings_change_nothing :
    (∀ s : Clocked DomainGate, s.FailsCleanly id) ∧
      (∀ s : Clocked GlobalGate, s.FailsCleanly GlobalGate.heal) ∧
      ∀ s : Service, s.FailsCleanly :=
  ⟨Clocked.failsCleanly DomainGate.recovers, Clocked.failsCleanly GlobalGate.recovers,
    Service.failsCleanly⟩

/-- A failure is asked for. It ends the prune behind a send, and nothing comes
of either. Where it ends a check it leaves the lock of the global gate poisoned, and the
next check is admitted all the same; and where the clock is moved too far in between, it
ends one call and the broken clock the next. -/
theorem failed_readings_change_nothing_past_a_send :
    let n : Notice := ⟨"a", "r", .filteredBlockList, .v4 127 0 0 1, none,
      ⟨0, 0, by decide, by decide, by decide⟩⟩
    let s := ((Service.begin (.ofSettings .default "" "") .fresh).step .failNext).2
    let t := (s.step (.advance ⟨0x8000_0000_0000_0000, 0, by decide, by decide⟩)).2
    (s.after [.sendLater n none, .prune, .check "a"]).heal
        = (s.disarm.after [.sendLater n none, .check "a"]).heal ∧
      (s.after [.check "a"]).dispatcher.globalGate.lock.isPoisoned = true ∧
      s.answers [.check "a", .check "a"] = [.fault .readFailed, .admission .admitted] ∧
      (t.step .prune).1 = .fault .readFailed ∧
      (t.disarm.step (.check "a")).1 = .fault .broken := by
  intro n s t
  obtain ⟨-, -, hclean⟩ := failed_readings_change_nothing
  have harmed : t.clock.failsNext = true := by decide +kernel
  have hunarmed : t.disarm.clock.failsNext = false := by decide +kernel
  have hbroken : t.disarm.clock.isBroken = true := by decide +kernel
  refine ⟨?_, rfl, ?_, ((hclean t).armed harmed .prune rfl).1,
    ((hclean t.disarm).broken hunarmed hbroken (.check "a") rfl).1⟩
  · exact ((hclean s).recovers rfl [.sendLater n none] (List.forall_mem_singleton.2 rfl) .prune rfl
      [.check "a"]).2
  · exact ((hclean s).recovers rfl [] (fun _ h => nomatch h) (.check "a") rfl [.check "a"]).1

end Herald
